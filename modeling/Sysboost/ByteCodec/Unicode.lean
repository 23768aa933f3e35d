import Sysboost.ByteCodec.Text
import Mathlib.Data.List.DropRight

/-!
# Unicode text

Decoding, trimming and splitting of texts that may hold any character; white
space is the Unicode property of that name.
-/

namespace ByteCodec

/-- The text that a byte string encodes. -/
def fromUtf8 (bytes : Bytes) : Option String :=
  String.fromUTF8? ⟨bytes.toArray⟩

/-- The bytes of a text. -/
def toUtf8 (text : String) : Bytes :=
  text.toByteArray.data.toList

/-- `char::is_whitespace`. -/
def isWhitespace (character : Char) : Bool :=
  let code := character.toNat
  (9 ≤ code && code ≤ 13) || code == 0x20 || code == 0x85 || code == 0xa0 || code == 0x1680 ||
    (0x2000 ≤ code && code ≤ 0x200a) || code == 0x2028 || code == 0x2029 || code == 0x202f ||
    code == 0x205f || code == 0x3000

/-- The text without the white space around it. -/
def trim (text : String) : String :=
  String.ofList ((text.toList.dropWhile isWhitespace).reverse.dropWhile isWhitespace).reverse

/-- The words between white space. -/
def splitWhitespace (text : String) : List String :=
  ((text.toList.splitOnP isWhitespace).filter fun word => !word.isEmpty).map String.ofList

/-- A line without the carriage return at its end. -/
def withoutReturn (line : List Char) : List Char :=
  if line.getLast? = some '\r' then line.dropLast else line

/-- The lines of a text; the last one may be unterminated. -/
def lines (text : String) : List String :=
  let pieces := text.toList.splitOn '\n'
  let last := pieces.getLast?.getD []
  (pieces.dropLast.map withoutReturn ++ if last.isEmpty then [] else [last]).map String.ofList

/-- What follows a pattern that the text starts with. -/
def afterPrefix (pattern text : String) : Option String :=
  if pattern.toList.isPrefixOf text.toList then
    some (String.ofList (text.toList.drop pattern.toList.length))
  else none

/-- What follows the last occurrence of a character. -/
def afterLast (character : Char) (text : String) : Option String :=
  if text.toList.contains character then
    some (String.ofList (text.toList.reverse.takeWhile (· != character)).reverse)
  else none

/-- The text before and after the first occurrence of a character. -/
def splitFirst (character : Char) (text : String) : Option (String × String) :=
  if text.toList.contains character then
    some (String.ofList (text.toList.takeWhile (· != character)),
      String.ofList (text.toList.dropWhile (· != character)).tail)
  else none

/-- The pieces of a text between occurrences of a character. -/
def splitAll (character : Char) (text : String) : List String :=
  (text.toList.splitOn character).map String.ofList

/-- The pieces of texts that are put together at a separator. -/
theorem splitAll_append (front back : String) :
    splitAll '/' (front ++ "/" ++ back) = splitAll '/' front ++ splitAll '/' back := by
  have chars : (front ++ "/" ++ back).toList = front.toList ++ '/' :: back.toList := by simp
  rw [splitAll, chars, List.splitOn_append_cons_self, List.map_append]
  rfl

theorem splitAll_of_absent {character : Char} {text : String} (absent : character ∉ text.toList) :
    splitAll character text = [text] := by
  rw [splitAll, List.splitOn_eq_singleton absent, List.map_singleton, String.ofList_toList]

theorem not_mem_of_mem_splitAll {character : Char} {text part : String}
    (member : part ∈ splitAll character text) : character ∉ part.toList := by
  obtain ⟨symbols, listed, rfl⟩ := List.mem_map.mp member
  rw [String.toList_ofList]
  exact not_mem_of_mem_splitOn listed

theorem splitFirst_eq_none_iff {character : Char} {text : String} :
    splitFirst character text = none ↔ character ∉ text.toList := by
  simp [splitFirst]

/-- A text is cut at its first separator. -/
theorem splitFirst_eq_some {character : Char} {text front back : String}
    (absent : character ∉ front.toList)
    (whole : text.toList = front.toList ++ character :: back.toList) :
    splitFirst character text = some (front, back) := by
  have differs : ∀ symbol ∈ front.toList, (symbol != character) = true := by
    intro symbol member
    rw [bne_iff_ne]
    rintro rfl
    exact absent member
  rw [splitFirst, whole, if_pos (by simp), List.takeWhile_append_of_pos differs,
    List.dropWhile_append_of_pos differs]
  simp

theorem splitFirst_eq_some_iff {character : Char} {text front back : String} :
    splitFirst character text = some (front, back) ↔
      character ∉ front.toList ∧ text.toList = front.toList ++ character :: back.toList := by
  constructor
  · intro found
    have present : character ∈ text.toList := by
      by_contra absent
      rw [splitFirst_eq_none_iff.mpr absent] at found
      cases found
    obtain ⟨before, after, whole, absent⟩ := List.eq_append_cons_of_mem present
    rw [← String.toList_ofList (l := before)] at absent whole
    rw [← String.toList_ofList (l := after)] at whole
    rw [splitFirst_eq_some absent whole] at found
    cases found
    exact ⟨absent, whole⟩
  · exact fun ⟨absent, whole⟩ => splitFirst_eq_some absent whole

/-- A text is cut at its last separator, whatever stands before it. -/
theorem afterLast_eq_some {character : Char} {text front back : String}
    (absent : character ∉ back.toList)
    (whole : text.toList = front.toList ++ character :: back.toList) :
    afterLast character text = some back := by
  have differs : ∀ symbol ∈ back.toList.reverse, (symbol != character) = true := by
    intro symbol member
    rw [bne_iff_ne]
    rintro rfl
    exact absent (List.mem_reverse.mp member)
  rw [afterLast, whole, if_pos (by simp), List.reverse_append, List.reverse_cons,
    List.append_assoc, List.takeWhile_append_of_pos differs]
  simp

/-- White space in front of the words adds none. -/
theorem splitWhitespace_space (text : String) :
    splitWhitespace (" " ++ text) = splitWhitespace text := by
  have chars : (" " ++ text).toList = ' ' :: text.toList := by simp
  rw [splitWhitespace, splitWhitespace, chars, List.splitOnP_cons_eq_if_modifyHead, if_pos (by decide)]
  rfl

/-- The text without the copies of a character that it starts with. -/
def trimStart (character : Char) (text : String) : String :=
  String.ofList (text.toList.dropWhile (· == character))

/-- Read an unsigned decimal number of a text. -/
def parseNumber (bound : Nat) (text : String) : Option Nat :=
  parseUnsigned bound (toUtf8 text)

@[simp]
theorem fromUtf8_toUtf8 (text : String) : fromUtf8 (toUtf8 text) = some text := by
  have valid : (ByteArray.mk (toUtf8 text).toArray).IsValidUTF8 := by
    simpa [toUtf8] using text.isValidUTF8
  simp only [fromUtf8, String.fromUTF8?, dif_pos valid, Option.some.injEq]
  apply String.toByteArray_inj.mp
  simp [toUtf8, String.fromUTF8]

/-! ## ASCII -/

theorem toUtf8_eq_flatMap (text : String) :
    toUtf8 text = text.toList.flatMap String.utf8EncodeChar := by
  rw [toUtf8, ← String.ofList_toList (s := text), String.toByteArray_ofList, String.ofList_toList]
  simp [List.utf8Encode]

/-- ASCII text has one byte for each character. -/
theorem toUtf8_of_ascii {text : String} (ascii : ∀ symbol ∈ text.toList, symbol.toNat < 128) :
    toUtf8 text = text.toList.map Char.toUInt8 := by
  have single : ∀ symbol ∈ text.toList, String.utf8EncodeChar symbol = [symbol.toUInt8] := by
    intro symbol member
    apply String.utf8EncodeChar_eq_singleton
    have small := ascii symbol member
    rw [Char.utf8Size_eq_one_iff, UInt32.le_iff_toNat_le]
    change symbol.toNat ≤ 127
    omega
  rw [toUtf8_eq_flatMap, List.flatMap_congr single, List.map_eq_flatMap]

theorem toUtf8_append (front back : String) :
    toUtf8 (front ++ back) = toUtf8 front ++ toUtf8 back := by
  simp [toUtf8_eq_flatMap]

theorem isDigit_of_mem_toString {value : Nat} {symbol : Char}
    (member : symbol ∈ (toString value).toList) : symbol.isDigit = true := by
  have digits : symbol ∈ Nat.toDigits 10 value := by simpa using member
  exact Nat.isDigit_of_mem_toDigits (by decide) (by decide) digits

/-- The bytes of a number are its digits. -/
theorem toUtf8_toString (value : Nat) : toUtf8 (toString value) = decimal value := by
  rw [toUtf8_of_ascii, decimal]
  · simp
  · intro symbol member
    have range := (toNat_toUInt8_of_isDigit (isDigit_of_mem_toString member)).2
    omega

/-! ## Joined texts -/

/-- The symbols of joined texts are those of the texts and the separator. -/
theorem forall_mem_intercalate {p : Char → Prop} {separator : String} {texts : List String}
    (between : ∀ symbol ∈ separator.toList, p symbol)
    (inside : ∀ text ∈ texts, ∀ symbol ∈ text.toList, p symbol) :
    ∀ symbol ∈ (separator.intercalate texts).toList, p symbol := by
  induction texts with
  | nil => simp
  | cons text texts ih =>
      rw [List.forall_mem_cons] at inside
      cases texts with
      | nil => simpa using inside.1
      | cons next texts =>
          rw [String.intercalate_cons_cons]
          simp only [String.toList_append, List.mem_append]
          rintro symbol ((member | member) | member)
          · exact inside.1 symbol member
          · exact between symbol member
          · exact ih inside.2 symbol member

/-- The pieces of texts that are put together at a separator they do not hold. -/
theorem splitAll_intercalate {character : Char} {texts : List String} (nonempty : texts ≠ [])
    (absent : ∀ text ∈ texts, character ∉ text.toList) :
    splitAll character ((String.singleton character).intercalate texts) = texts := by
  rw [splitAll, String.toList_intercalate, String.toList_singleton, List.splitOn_intercalate]
  · simp [Function.comp_def]
  · simpa using absent
  · simpa using nonempty

/-- A separator stands between any two neighbours. -/
theorem length_intercalate (separator : String) (texts : List String) :
    (separator.intercalate texts).length =
      (texts.map String.length).sum + separator.length * (texts.length - 1) := by
  induction texts with
  | nil => simp
  | cons text texts ih =>
      cases texts with
      | nil => simp
      | cons next texts =>
          rw [String.intercalate_cons_cons, String.length_append, String.length_append, ih]
          simp only [List.map_cons, List.sum_cons, List.length_cons, Nat.add_sub_cancel]
          rw [Nat.mul_succ]
          omega

/-! ## Plain text -/

/-- ASCII text without a zero byte. -/
def Plain (text : String) : Prop :=
  ∀ symbol ∈ text.toList, 0 < symbol.toNat ∧ symbol.toNat < 128

instance (text : String) : Decidable (Plain text) :=
  List.decidableBAll _ _

theorem Plain.append {front back : String} (plain : Plain front) (plain' : Plain back) :
    Plain (front ++ back) := by
  intro symbol member
  rw [String.toList_append, List.mem_append] at member
  rcases member with member | member
  · exact plain symbol member
  · exact plain' symbol member

theorem plain_toString (value : Nat) : Plain (toString value) := by
  intro symbol member
  have range := (toNat_toUInt8_of_isDigit (isDigit_of_mem_toString member)).2
  omega

theorem Plain.toUtf8_length {text : String} (plain : Plain text) :
    (toUtf8 text).length = text.length := by
  rw [toUtf8_of_ascii fun symbol member => (plain symbol member).2, List.length_map]
  exact String.length_toList

theorem Plain.zero_notMem {text : String} (plain : Plain text) : 0 ∉ toUtf8 text := by
  rw [toUtf8_of_ascii fun symbol member => (plain symbol member).2]
  intro member
  obtain ⟨symbol, member, zero⟩ := List.mem_map.mp member
  have small := plain symbol member
  have same : symbol.toNat % 256 = 0 := congrArg UInt8.toNat zero
  omega

/-! ## Numbers and words -/

/-- Text without white space. -/
def Solid (text : String) : Prop :=
  ∀ symbol ∈ text.toList, isWhitespace symbol = false

instance (text : String) : Decidable (Solid text) :=
  List.decidableBAll _ _

theorem isWhitespace_of_isDigit {symbol : Char} (digit : symbol.isDigit = true) :
    isWhitespace symbol = false := by
  have range := (toNat_toUInt8_of_isDigit digit).2
  simp only [isWhitespace, Bool.or_eq_false_iff, Bool.and_eq_false_iff,
    decide_eq_false_iff_not, beq_eq_false_iff_ne]
  omega

theorem toString_ne_empty (value : Nat) : toString value ≠ "" := by
  intro empty
  have digits : Nat.toDigits 10 value = [] := by simpa using congrArg String.toList empty
  exact Nat.toDigits_ne_nil digits

/-- A number is no text with another character than a digit. -/
theorem toString_ne_of_mem {text : String} {symbol : Char} (member : symbol ∈ text.toList)
    (other : symbol.isDigit = false) (value : Nat) : toString value ≠ text := by
  rintro rfl
  rw [isDigit_of_mem_toString member] at other
  cases other

theorem solid_toString (value : Nat) : Solid (toString value) :=
  fun _ member => isWhitespace_of_isDigit (isDigit_of_mem_toString member)

theorem parseNumber_toString {bound value : Nat} (fits : value < bound) :
    parseNumber bound (toString value) = some value := by
  rw [parseNumber, toUtf8_toString]
  exact parseUnsigned_decimal fits

theorem dropWhile_of_solid {symbols : List Char}
    (solid : ∀ symbol ∈ symbols, isWhitespace symbol = false) :
    symbols.dropWhile isWhitespace = symbols := by
  cases symbols with
  | nil => rfl
  | cons symbol rest => simp [solid symbol List.mem_cons_self]

theorem trim_of_solid {text : String} (solid : Solid text) : trim text = text := by
  rw [trim, dropWhile_of_solid solid, dropWhile_of_solid fun symbol member =>
    solid symbol (List.mem_reverse.mp member)]
  simp

/-- A trimmed text stays as it is. -/
theorem trim_trim (text : String) : trim (trim text) = trim text := by
  -- What is left begins and ends with no white space.
  have begins : ((text.toList.dropWhile isWhitespace).rdropWhile isWhitespace).dropWhile
      isWhitespace = (text.toList.dropWhile isWhitespace).rdropWhile isWhitespace := by
    rw [List.dropWhile_eq_self_iff]
    intro nonempty
    have front := List.rdropWhile_prefix isWhitespace (text.toList.dropWhile isWhitespace)
    have first := List.dropWhile_eq_self_iff.mp
      (List.dropWhile_idempotent isWhitespace text.toList) (nonempty.trans_le front.length_le)
    rwa [front.getElem nonempty]
  have ends := List.rdropWhile_idempotent isWhitespace (text.toList.dropWhile isWhitespace)
  have trimmed : (trim text).toList =
      (text.toList.dropWhile isWhitespace).rdropWhile isWhitespace := String.toList_ofList
  have again : trim (trim text) =
      String.ofList (((trim text).toList.dropWhile isWhitespace).rdropWhile isWhitespace) := rfl
  rw [again, trimmed, begins, ends]
  rfl

/-- The end of a line is trimmed. -/
theorem trim_line {text : String} (solid : Solid text) : trim (text ++ "\n") = text := by
  have ends : isWhitespace '\n' = true := by decide
  cases symbols : text.toList with
  | nil =>
      rw [← String.ofList_toList (s := text), symbols]
      decide
  | cons symbol rest =>
      have first := solid symbol (symbols ▸ List.mem_cons_self)
      have line : (text ++ "\n").toList.dropWhile isWhitespace = text.toList ++ ['\n'] := by
        simp [symbols, first]
      have back := dropWhile_of_solid fun symbol member =>
        solid symbol (List.mem_reverse.mp member)
      rw [trim, line, List.reverse_concat, List.dropWhile_cons_of_pos ends, back]
      simp

theorem splitWhitespace_pair {first second : String} (solid : Solid first)
    (solid' : Solid second) (nonempty : first ≠ "") (nonempty' : second ≠ "") :
    splitWhitespace (first ++ " " ++ second) = [first, second] := by
  have symbols : (first ++ " " ++ second).toList = first.toList ++ ' ' :: second.toList := by
    simp
  have pieces : (first.toList ++ ' ' :: second.toList).splitOnP isWhitespace =
      [first.toList, second.toList] := by
    rw [List.splitOnP_append_cons_of_forall_mem solid ' ' (by decide),
      List.splitOnP_eq_singleton solid']
  rw [splitWhitespace, symbols, pieces]
  simp [nonempty, nonempty']

/-- A text without a line end is one line. -/
theorem lines_of_absent {text : String} (absent : '\n' ∉ text.toList) (nonempty : text ≠ "") :
    lines text = [text] := by
  have piece : text.toList.splitOn '\n' = [text.toList] := List.splitOn_eq_singleton absent
  have filled : text.toList.isEmpty = false := by simpa using nonempty
  simp [lines, piece, filled]

end ByteCodec
