/-!
# Text as bytes

The decoding of UTF-8, where what is no text stands out: each longest piece that starts a character
without finishing it, and each byte that starts none, is told apart from the characters around it.
-/

namespace ContentModels.Text

/-- The number of bytes of a text. -/
def byteCount (cs : List Char) : Nat := cs.foldr (fun c n => c.utf8Size + n) 0

/-- What the first byte of a character says: its own bits, how many bytes follow, and the range of
the byte behind it. -/
structure Lead where
  bits : Nat
  more : Nat
  low : Nat := 0x80
  high : Nat := 0xBF

/-- What a byte says as the first one of a character. -/
def lead? (b : Nat) : Option Lead :=
  if b < 0x80 then some ⟨b, 0, 0x80, 0xBF⟩
  else if b < 0xC2 then none
  else if b < 0xE0 then some ⟨b - 0xC0, 1, 0x80, 0xBF⟩
  else if b = 0xE0 then some ⟨0, 2, 0xA0, 0xBF⟩
  else if b = 0xED then some ⟨0xD, 2, 0x80, 0x9F⟩
  else if b < 0xF0 then some ⟨b - 0xE0, 2, 0x80, 0xBF⟩
  else if b = 0xF0 then some ⟨0, 3, 0x90, 0xBF⟩
  else if b < 0xF4 then some ⟨b - 0xF0, 3, 0x80, 0xBF⟩
  else if b = 0xF4 then some ⟨4, 3, 0x80, 0x8F⟩
  else none

/-- The code of a character whose first byte was read, if its other bytes follow, and the bytes
behind it. -/
def finish (bits low high : Nat) : Nat → List Nat → Option Nat × List Nat
  | 0, bytes => (some bits, bytes)
  | _ + 1, [] => (none, [])
  | more + 1, b :: bytes =>
    if low ≤ b ∧ b ≤ high then finish (bits * 64 + (b - 0x80)) 0x80 0xBF more bytes
    else (none, b :: bytes)

theorem length_finish_le (bits low high more : Nat) (bytes : List Nat) :
    (finish bits low high more bytes).2.length ≤ bytes.length := by
  fun_induction finish bits low high more bytes with
  | case1 => simp
  | case2 => simp
  | case3 _ _ _ _ _ _ _ ih => exact Nat.le_succ_of_le ih
  | case4 => simp

/-- The characters that bytes stand for, with `none` for each piece that stands for no character. -/
def decode : List Nat → List (Option Char)
  | [] => []
  | b :: bytes =>
    match lead? b with
    | none => none :: decode bytes
    | some l =>
      let r := finish l.bits l.low l.high l.more bytes
      r.1.map Char.ofNat :: decode r.2
termination_by bytes => bytes.length
decreasing_by
  · simp
  · exact Nat.lt_succ_of_le (length_finish_le ..)

/-- The text that bytes stand for, if all of them do. -/
def ofBytes? (bytes : List Nat) : Option String := do
  let chars ← (decode bytes).mapM id
  return String.ofList chars

/-- The text that bytes stand for, with a replacement character for each piece that is no text. -/
def ofBytesLossy (bytes : List Nat) : String :=
  String.ofList ((decode bytes).map fun c => c.getD '\ufffd')

end ContentModels.Text
