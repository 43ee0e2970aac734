/-!
# UTF-8 with replacement

Bytes are read as UTF-8 one at a time.  Where they are not well formed, each longest start of a
character that was broken off becomes one replacement character, and reading goes on with the byte
that did not fit.  The states are named for what is still owed.
-/

namespace BluetoothControl.Text

/-! ## Algorithm -/

/-- What the reader has of the character it is in. -/
inductive Utf8State
  /-- Between characters. -/
  | fresh
  /-- `owed` more bytes are due, the next of them between `low` and `high`; `bits` are those
  read so far. -/
  | within (owed : Nat) (low high : UInt8) (bits : Nat)
  deriving Repr, DecidableEq

/-- Stands for what cannot be read. -/
def replacement : Char := Char.ofNat 0xFFFD

/-- A byte between characters. -/
def Utf8State.start (b : UInt8) : List Char × Utf8State :=
  if b < 0x80 then ([Char.ofNat b.toNat], .fresh)
  else if b < 0xC2 then ([replacement], .fresh)
  else if b < 0xE0 then ([], .within 1 0x80 0xBF (b.toNat - 0xC0))
  else if b = 0xE0 then ([], .within 2 0xA0 0xBF 0)
  else if b = 0xED then ([], .within 2 0x80 0x9F 0xD)
  else if b < 0xF0 then ([], .within 2 0x80 0xBF (b.toNat - 0xE0))
  else if b = 0xF0 then ([], .within 3 0x90 0xBF 0)
  else if b < 0xF4 then ([], .within 3 0x80 0xBF (b.toNat - 0xF0))
  else if b = 0xF4 then ([], .within 3 0x80 0x8F 4)
  else ([replacement], .fresh)

/-- A byte in any state: the characters that it completes or breaks off, and the next state. -/
def Utf8State.feed : Utf8State → UInt8 → List Char × Utf8State
  | .fresh, b => start b
  | .within owed low high bits, b =>
    if low ≤ b && b ≤ high then
      let bits := bits * 64 + b.toNat % 64
      if owed ≤ 1 then ([Char.ofNat bits], .fresh) else ([], .within (owed - 1) 0x80 0xBF bits)
    else
      let (out, next) := start b
      (replacement :: out, next)

/-- What a state still yields when the bytes end. -/
def Utf8State.finish : Utf8State → List Char
  | .fresh => []
  | .within .. => [replacement]

/-- The text of a byte string, from a state on. -/
def decodeUtf8From : Utf8State → List UInt8 → List Char
  | s, [] => s.finish
  | s, b :: rest =>
    let (out, next) := s.feed b
    out ++ decodeUtf8From next rest

/-- The text of a byte string. -/
def decodeUtf8 (bytes : List UInt8) : List Char := decodeUtf8From .fresh bytes

/-- The bytes of a text in UTF-8. -/
def encodeUtf8 (cs : List Char) : List UInt8 := cs.flatMap String.utf8EncodeChar

/-! ## Lemmas -/

theorem decodeUtf8_nil : decodeUtf8 [] = [] := rfl

theorem decodeUtf8_ascii_cons (b : UInt8) (h : b < 0x80) (rest : List UInt8) :
    decodeUtf8 (b :: rest) = Char.ofNat b.toNat :: decodeUtf8 rest := by
  simp [decodeUtf8, decodeUtf8From, Utf8State.feed, Utf8State.start, h]

end BluetoothControl.Text
