import Mathlib.Data.String.Basic
import MeshRelay.Wire.Bytes

/-! Reading hex text back: Go's `hex.DecodeString` on the UTF-8 bytes of a string, and
`strings.TrimSpace`, as `NewRelayAuth` and `loadCRL` use them. -/

namespace MeshRelay

/-! ### `strings.TrimSpace` -/

/-- `unicode.IsSpace`: the Latin-1 spaces `'\t'`, `'\n'`, `'\v'`, `'\f'`, `'\r'`, `' '`, U+0085
and U+00A0, and the other characters of Unicode's `White_Space` property. -/
def goIsSpace (c : Char) : Bool :=
  let r := c.toNat
  (9 ≤ r && r ≤ 13) || r == 0x20 || r == 0x85 || r == 0xA0 || r == 0x1680 ||
    (0x2000 ≤ r && r ≤ 0x200A) || r == 0x2028 || r == 0x2029 || r == 0x202F || r == 0x205F || r == 0x3000

/-- `strings.TrimSpace`: the text without its leading and trailing white space. -/
def trimSpace (s : String) : String :=
  ⟨((s.data.dropWhile goIsSpace).reverse.dropWhile goIsSpace).reverse⟩

/-- `unicode.IsSpace` holds for no printable ASCII character. -/
theorem goIsSpace_printable {c : Char} (printable : 33 ≤ c.toNat) (ascii : c.toNat < 128) :
    goIsSpace c = false := by
  -- every space it lists is a control character, `' '`, or beyond ASCII
  rw [Bool.eq_false_iff]
  intro space
  simp only [goIsSpace, Bool.or_eq_true, Bool.and_eq_true, decide_eq_true_eq, beq_iff_eq] at space
  omega

/-! ### `hex.DecodeString` -/

/-- `reverseHexTable`: the value of a hex digit of either case, and `0xff` for every other byte. -/
def reverseHex (byte : UInt8) : UInt8 :=
  if 0x30 ≤ byte ∧ byte ≤ 0x39 then byte - 0x30
  else if 0x61 ≤ byte ∧ byte ≤ 0x66 then byte - 0x61 + 10
  else if 0x41 ≤ byte ∧ byte ≤ 0x46 then byte - 0x41 + 10
  else 0xff

/-- `hex.InvalidByteError` and `hex.ErrLength`. -/
inductive HexError where
  | invalidByte (byte : UInt8)
  | length
  deriving DecidableEq

/-- `hex.Decode`: two digits per byte, high half first; the first invalid digit, or a last digit
left alone, is an error. -/
def hexDecode : Bytes → Except HexError Bytes
  | p :: q :: rest =>
    if reverseHex p > 0x0f then .error (.invalidByte p)
    else if reverseHex q > 0x0f then .error (.invalidByte q)
    else (((reverseHex p <<< 4) ||| reverseHex q) :: ·) <$> hexDecode rest
  | [p] => if reverseHex p > 0x0f then .error (.invalidByte p) else .error .length
  | [] => .ok []

/-- `hex.DecodeString(s)`, on the bytes of `s`; the bytes decoded before an error are dropped. -/
def hexDecodeString (s : String) : Except HexError Bytes :=
  hexDecode (utf8Bytes s)

/-! ### Characters and bytes as numbers -/

/-- Two characters are equal when their code points are. -/
private theorem char_eq_iff_toNat {a b : Char} : a = b ↔ a.toNat = b.toNat :=
  ⟨congrArg Char.toNat, fun same => Char.ext (UInt32.toNat.inj same)⟩

/-- Two bytes are equal when their values are. -/
private theorem byte_eq_iff_toNat {a b : UInt8} : a = b ↔ a.toNat = b.toNat :=
  ⟨congrArg UInt8.toNat, UInt8.toNat.inj⟩

/-- `Char.ofNat` keeps every ASCII code point. -/
private theorem toNat_ofNat_ascii {n : Nat} (ascii : n < 128) : (Char.ofNat n).toNat = n := by
  -- an ASCII code point is a valid scalar value
  rw [Char.ofNat, dif_pos (Or.inl (by omega))]
  rfl

/-- `Char.toLower` moves `'A'`..`'Z'` up by 32 and keeps every other code point. -/
theorem toLower_toNat (c : Char) :
    c.toLower.toNat = if 65 ≤ c.toNat ∧ c.toNat ≤ 90 then c.toNat + 32 else c.toNat := by
  -- the one branch that moves the character lands in ASCII
  simp only [Char.toLower, ge_iff_le]
  split
  · exact toNat_ofNat_ascii (by omega)
  · rfl

/-- `Char.toLower` neither makes nor removes white space. -/
theorem goIsSpace_toLower (c : Char) : goIsSpace c.toLower = goIsSpace c := by
  -- only `'A'`..`'Z'` move, to `'a'`..`'z'`, and none of them is white space
  by_cases upper : 65 ≤ c.toNat ∧ c.toNat ≤ 90
  · have lowered := toLower_toNat c
    rw [if_pos upper] at lowered
    rw [goIsSpace_printable (by omega) (by omega), goIsSpace_printable (by omega) (by omega)]
  · simp only [Char.toLower, ge_iff_le, if_neg upper]

/-- The code point of the digit `hexDigit` writes for a value below 16. -/
theorem hexDigit_toNat : ∀ v < 16, (hexDigit v).toNat = if v < 10 then 48 + v else 87 + v := by
  decide

/-- `reverseHexTable` in numbers: a digit's value, and 255 for every other byte. -/
theorem reverseHex_toNat (b : UInt8) :
    (reverseHex b).toNat =
      if 48 ≤ b.toNat ∧ b.toNat ≤ 57 then b.toNat - 48
      else if 97 ≤ b.toNat ∧ b.toNat ≤ 102 then b.toNat - 87
      else if 65 ≤ b.toNat ∧ b.toNat ≤ 70 then b.toNat - 55 else 255 := by
  -- each branch's byte arithmetic stays in range
  unfold reverseHex
  simp only [UInt8.le_def, BitVec.le_def, UInt8.toNat, UInt8.toBitVec_ofNat, BitVec.toNat_ofNat,
    Nat.reduceMod, Nat.reducePow]
  split_ifs <;> simp only [UInt8.sub_def, UInt8.add_def, BitVec.toNat_sub, BitVec.toNat_add,
    UInt8.toBitVec_ofNat, BitVec.toNat_ofNat, Nat.reducePow, Nat.reduceMod] <;> omega

/-- The high half of a byte is below 16. -/
theorem toNat_div_sixteen_lt (b : UInt8) : b.toNat / 16 < 16 := by
  have := UInt8.toNat_lt_256 b
  omega

/-- `hex.Decode`'s test `reverseHex p > 0x0f` in numbers. -/
private theorem hexInvalid_iff (b : UInt8) : b > 0x0f ↔ 15 < b.toNat := by
  simp [UInt8.lt_def, BitVec.lt_def]; rfl

/-- The byte `hex.Decode` builds from two digit values is sixteen times the first plus the second. -/
private theorem combine_toNat {hi lo : UInt8} (small : hi.toNat < 16) (low : lo.toNat < 16) :
    ((hi <<< 4) ||| lo).toNat = 16 * hi.toNat + lo.toNat := by
  -- below 16 the shift and the or add up without carries
  have table : ∀ a < 16, ∀ b < 16, (a <<< 4 % 256) ||| b = 16 * a + b := by decide
  show (hi.toBitVec <<< (4 % 8 : UInt8).toBitVec ||| lo.toBitVec).toNat = _
  simpa [BitVec.toNat_shiftLeft] using table _ small _ low

/-- A byte with its top bit set is 128 or more. -/
private theorem le_toNat_or_high {x m : UInt8} (high : m.toNat.testBit 7 = true) :
    128 ≤ (x ||| m).toNat := by
  -- bit 7 of the or is bit 7 of `m`
  show 2 ^ 7 ≤ (x.toBitVec ||| m.toBitVec).toNat
  exact Nat.testBit_implies_ge (by
    simp only [BitVec.toNat_or, Nat.testBit_or]; exact Bool.or_eq_true_iff.mpr (.inr high))

/-! ### UTF-8 bytes of a character -/

/-- An ASCII character is the one byte of its code point. -/
theorem utf8EncodeChar_ascii {c : Char} (ascii : c.toNat < 128) :
    String.utf8EncodeChar c = [c.toNat.toUInt8] := by
  -- the first branch of the encoder
  rw [String.utf8EncodeChar, if_pos]
  · rfl
  · simpa [UInt32.le_def, BitVec.le_def] using Nat.lt_succ_iff.mp ascii

/-- Every other character starts with a byte of 128 or more. -/
theorem utf8EncodeChar_wide {c : Char} (wide : 128 ≤ c.toNat) :
    ∃ b rest, String.utf8EncodeChar c = b :: rest ∧ 128 ≤ b.toNat := by
  -- the lead byte of a two-, three- or four-byte sequence has its top bit set
  unfold String.utf8EncodeChar
  have long : ¬ c.val ≤ 0x7f := by simpa [UInt32.le_def, BitVec.le_def] using wide
  simp only [long, if_false]
  split_ifs <;> exact ⟨_, _, rfl, le_toNat_or_high (by decide)⟩

/-! ### One character against one digit -/

/-- The digit of `v` is an ASCII character lowercased exactly when `reverseHexTable` reads `v` from
the character's byte. -/
theorem hexDigit_eq_toLower_iff {c : Char} {v : Nat} (ascii : c.toNat < 128) (digit : v < 16) :
    hexDigit v = c.toLower ↔ (reverseHex c.toNat.toUInt8).toNat = v := by
  -- both sides are conditions on the code point
  have byte : c.toNat.toUInt8.toNat = c.toNat :=
    UInt8.toNat_ofNat_of_lt (by show c.toNat < 256; omega)
  rw [char_eq_iff_toNat, toLower_toNat, hexDigit_toNat v digit, reverseHex_toNat, byte]
  split_ifs <;> omega

/-- No character outside ASCII lowercases to a hex digit. -/
theorem toLower_ne_hexDigit {c : Char} {v : Nat} (wide : 128 ≤ c.toNat) (digit : v < 16) :
    c.toLower ≠ hexDigit v := by
  -- `toLower` keeps it outside ASCII, and every digit is inside
  rw [Ne, char_eq_iff_toNat, toLower_toNat, hexDigit_toNat v digit]
  split_ifs <;> omega

/-- Every character of `hex.EncodeToString`'s text is a digit `hexDigit` writes. -/
theorem mem_hexEncode {ch : Char} {bytes : Bytes} (member : ch ∈ (hexEncode bytes).data) :
    ∃ v < 16, ch = hexDigit v := by
  -- each byte gives its high and its low half
  obtain ⟨b, -, half⟩ := List.mem_flatMap.mp member
  rcases List.mem_pair.mp half with rfl | rfl
  · exact ⟨_, toNat_div_sixteen_lt b, rfl⟩
  · exact ⟨_, Nat.mod_lt _ (by decide), rfl⟩

/-! ### `hex.Decode` pair by pair -/

/-- One step of `hex.Decode`: two bytes decode to `b` exactly when they are `b`'s digits. -/
theorem hexDecode_pair (p q : UInt8) (rest : Bytes) (b : UInt8) (out : Bytes) :
    hexDecode (p :: q :: rest) = .ok (b :: out) ↔
      (reverseHex p).toNat = b.toNat / 16 ∧ (reverseHex q).toNat = b.toNat % 16 ∧
        hexDecode rest = .ok out := by
  -- an invalid digit is an error, and two valid ones give one byte in front of the rest
  have bound := UInt8.toNat_lt_256 b
  simp only [hexDecode, hexInvalid_iff]
  split_ifs with badP badQ
  · exact iff_of_false (by simp) (by omega)
  · exact iff_of_false (by simp) (by omega)
  · rcases decoded : hexDecode rest with _ | tail <;>
      simp only [Functor.map, Except.map, reduceCtorEq, false_iff, not_and, Except.ok.injEq,
        List.cons.injEq, and_false, imp_false, implies_true]
    rw [byte_eq_iff_toNat, combine_toNat (by omega) (by omega), ← and_assoc]
    exact Iff.and ⟨fun built => ⟨by omega, by omega⟩, fun ⟨_, _⟩ => by omega⟩ Iff.rfl

/-- Two bytes never decode to nothing. -/
theorem hexDecode_pair_ne_nil (p q : UInt8) (rest : Bytes) : hexDecode (p :: q :: rest) ≠ .ok [] := by
  -- an error, or a byte in front of the rest
  simp only [hexDecode]
  split_ifs <;> cases hexDecode rest <;> simp [Functor.map, Except.map]

/-- A byte left alone is always an error. -/
theorem hexDecode_single (p : UInt8) (out : Bytes) : hexDecode [p] ≠ .ok out := by
  -- an invalid digit, or `ErrLength`
  simp only [hexDecode]
  split_ifs <;> simp

/-- `hex.Decode` accepts only inputs made of hex digits. -/
theorem hexDecode_digits : ∀ {input out : Bytes}, hexDecode input = .ok out →
    ∀ p ∈ input, (reverseHex p).toNat ≤ 15
  | [], _, _ => by simp
  | [p], _, decoded => absurd decoded (hexDecode_single p _)
  | p :: q :: rest, [], decoded => absurd decoded (hexDecode_pair_ne_nil p q rest)
  | p :: q :: rest, b :: out, decoded => by
    -- the pair's digits are halves of `b`, and the rest is accepted too
    obtain ⟨high, low, tail⟩ := (hexDecode_pair p q rest b out).mp decoded
    have small := toNat_div_sixteen_lt b
    have rest_digits := hexDecode_digits tail
    simp only [List.mem_cons, forall_eq_or_imp]
    exact ⟨by omega, by omega, rest_digits⟩

/-- On ASCII text `hex.Decode` reads `b` exactly where `hex.EncodeToString b` is the text lowercased. -/
private theorem hexDecode_ascii_iff : ∀ (chars : List Char), (∀ c ∈ chars, c.toNat < 128) →
    ∀ bytes, hexDecode (chars.map fun c => c.toNat.toUInt8) = .ok bytes ↔
      (hexEncode bytes).data = chars.map Char.toLower
  | [], _, bytes => by cases bytes <;> simp [hexDecode, hexEncode]
  | [c], _, bytes => iff_of_false (hexDecode_single _ _) (by cases bytes <;> simp [hexEncode])
  | c :: d :: rest, ascii, [] => iff_of_false (hexDecode_pair_ne_nil _ _ _) (by simp [hexEncode])
  | c :: d :: rest, ascii, b :: bytes => by
    -- one byte against two characters, then the rest
    simp only [List.mem_cons, forall_eq_or_imp] at ascii
    show _ ↔ hexDigit (b.toNat / 16) :: hexDigit (b.toNat % 16) :: (hexEncode bytes).data = _
    rw [List.map_cons, List.map_cons, List.map_cons, List.map_cons, hexDecode_pair,
      List.cons.injEq, List.cons.injEq,
      hexDigit_eq_toLower_iff ascii.1 (toNat_div_sixteen_lt b),
      hexDigit_eq_toLower_iff ascii.2.1 (Nat.mod_lt _ (by decide)), hexDecode_ascii_iff rest ascii.2.2]

/-- The UTF-8 bytes of ASCII text are its code points. -/
private theorem flatMap_utf8EncodeChar_ascii : ∀ chars : List Char, (∀ c ∈ chars, c.toNat < 128) →
    chars.flatMap String.utf8EncodeChar = chars.map fun c => c.toNat.toUInt8
  | [], _ => rfl
  | c :: rest, ascii => by
    -- one byte per character
    simp only [List.mem_cons, forall_eq_or_imp] at ascii
    rw [List.flatMap_cons, utf8EncodeChar_ascii ascii.1, flatMap_utf8EncodeChar_ascii rest ascii.2]
    rfl

/-- `hex.Decode` reads `b` from the UTF-8 bytes of some characters exactly when
`hex.EncodeToString b` is those characters lowercased. -/
theorem hexDecode_utf8_iff (chars : List Char) (bytes : Bytes) :
    hexDecode (chars.flatMap String.utf8EncodeChar) = .ok bytes ↔
      (hexEncode bytes).data = chars.map Char.toLower := by
  by_cases ascii : ∀ c ∈ chars, c.toNat < 128
  · rw [flatMap_utf8EncodeChar_ascii chars ascii]
    exact hexDecode_ascii_iff chars ascii bytes
  · -- a character outside ASCII: its lead byte is no digit, and it lowercases to no digit
    obtain ⟨c, member, wide⟩ : ∃ c ∈ chars, 128 ≤ c.toNat := by simpa using ascii
    obtain ⟨lead, more, encoded, high⟩ := utf8EncodeChar_wide wide
    refine iff_of_false (fun decoded => ?_) (fun written => ?_)
    · have digit := hexDecode_digits decoded lead
        (List.mem_flatMap.mpr ⟨c, member, encoded ▸ List.mem_cons_self _ _⟩)
      rw [reverseHex_toNat] at digit
      split_ifs at digit <;> omega
    · obtain ⟨v, small, same⟩ := mem_hexEncode (written ▸ List.mem_map_of_mem _ member)
      exact toLower_ne_hexDigit wide small same

/-- `hex.DecodeString` accepts a text exactly when it is `hex.EncodeToString` of some bytes with
any of its letters in upper case, and then gives those bytes. -/
theorem hexDecodeString_ok_iff (s : String) (bytes : Bytes) :
    hexDecodeString s = .ok bytes ↔ hexEncode bytes = s.toLower := by
  -- `String.toLower` lowercases character by character
  rw [String.toLower, String.map_eq, String.ext_iff]
  exact hexDecode_utf8_iff s.data bytes

/-! ### Lists of keys in text -/

/-- `unicode.ToLower`, which `strings.ToLower` applies to each character, with the two facts of
Go's case tables the revocation list relies on: on ASCII it is `Char.toLower`, and it neither
makes nor removes white space. -/
structure UnicodeCase where
  toLower : Char → Char
  toLower_ascii : ∀ c : Char, c.toNat < 128 → toLower c = c.toLower
  isSpace_toLower : ∀ c : Char, goIsSpace (toLower c) = goIsSpace c

/-- Lean's `Char.toLower`, which lowercases only ASCII, as a stand-in for `unicode.ToLower` in
concrete instances. -/
def UnicodeCase.asciiOnly : UnicodeCase :=
  ⟨Char.toLower, fun _ _ => rfl, goIsSpace_toLower⟩

/-- `strings.Split(s, sep)` for a one-character separator: the pieces between separators, with an
empty piece after a final one. -/
def goSplit (sep : Char) (s : String) : List String :=
  (s.data.splitOnP (· == sep)).map String.mk

/-- The keys a text lists as `loadCRL` and `main` read them: each piece between separators
lowercased by `strings.ToLower` and trimmed by `strings.TrimSpace`, without empty pieces and the
pieces `keep` refuses. -/
def listedKeys (unicode : UnicodeCase) (sep : Char) (keep : String → Bool) (data : String) :
    List String :=
  ((goSplit sep data).map fun piece => trimSpace ⟨piece.data.map unicode.toLower⟩).filter
    fun piece => piece != "" && keep piece

/-- Lowercasing commutes with `strings.TrimSpace`, since it keeps white space apart. -/
theorem trimSpace_toLower (unicode : UnicodeCase) (s : String) :
    trimSpace ⟨s.data.map unicode.toLower⟩ = ⟨(trimSpace s).data.map unicode.toLower⟩ := by
  -- `dropWhile goIsSpace` sees the same spaces before and after the map
  have same : goIsSpace ∘ unicode.toLower = goIsSpace := funext unicode.isSpace_toLower
  simp only [trimSpace, List.dropWhile_map, same, ← List.map_reverse]

/-- A piece whose trimmed text is the hex of a non-empty key, letters in either case, puts the key's
hex on the list, if `keep` takes it. -/
theorem mem_listedKeys (unicode : UnicodeCase) {sep : Char} {keep : String → Bool}
    {data piece : String} (listed : piece ∈ goSplit sep data) {key : Bytes} (nonempty : key ≠ [])
    (names : hexDecodeString (trimSpace piece) = .ok key) (kept : keep (hexEncode key) = true) :
    hexEncode key ∈ listedKeys unicode sep keep data := by
  -- the trimmed piece is ASCII digits, which `unicode.ToLower` lowercases as `Char.toLower` does
  have written := (hexDecode_utf8_iff _ key).mp names
  have ascii : ∀ c ∈ (trimSpace piece).data, c.toNat < 128 := fun c member => by
    obtain ⟨v, small, same⟩ := mem_hexEncode (written ▸ List.mem_map_of_mem Char.toLower member)
    by_contra wide
    exact @toLower_ne_hexDigit c v (by omega) small same
  have lowered : trimSpace ⟨piece.data.map unicode.toLower⟩ = hexEncode key := by
    rw [trimSpace_toLower, String.ext_iff, List.map_congr_left (fun c member =>
      unicode.toLower_ascii c (ascii c member))]
    exact written.symm
  have filled : hexEncode key ≠ "" := fun empty => by
    obtain ⟨b, rest, rfl⟩ := List.exists_cons_of_ne_nil nonempty
    cases congrArg String.data empty
  refine List.mem_filter.mpr ⟨List.mem_map.mpr ⟨piece, listed, lowered⟩, ?_⟩
  simp [filled, kept]

end MeshRelay
