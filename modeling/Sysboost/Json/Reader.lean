import Mathlib.Data.List.TakeDrop

/-!
# Reading JSON objects

A reader of JSON objects whose values are strings, integers and literals.  A
text that spells a value is read as this value, whatever follows it; the pieces
of an object are spelled one after the other.
-/

namespace Json

/-! ## Strings -/

/-- The whitespace between tokens. -/
def isSpace (symbol : Char) : Bool :=
  symbol = ' ' || symbol = '\t' || symbol = '\n' || symbol = '\r'

def skip (input : List Char) : List Char :=
  input.dropWhile isSpace

/-- The value of a hexadecimal digit. -/
def hexValue (digit : Char) : Option Nat :=
  if digit.isDigit then some (digit.toNat - 48)
  else if 'a' ≤ digit ∧ digit ≤ 'f' then some (digit.toNat - 87)
  else if 'A' ≤ digit ∧ digit ≤ 'F' then some (digit.toNat - 55)
  else none

/-- The UTF-16 code unit of an escape. -/
def codeUnit (first second third fourth : Char) : Option Nat := do
  let first ← hexValue first
  let second ← hexValue second
  let third ← hexValue third
  let fourth ← hexValue fourth
  return 4096 * first + 256 * second + 16 * third + fourth

/-- The character of an escape of two characters. -/
def escaped (symbol : Char) : Option Char :=
  match symbol with
  | '"' => some '"'
  | '\\' => some '\\'
  | '/' => some '/'
  | 'b' => some '\x08'
  | 'f' => some '\x0c'
  | 'n' => some '\n'
  | 'r' => some '\r'
  | 't' => some '\t'
  | _ => none

/-- Put a character in front of what is read after it. -/
def push (symbol : Char) (read : Option (List Char × List Char)) :
    Option (List Char × List Char) :=
  read.map fun (symbols, rest) => (symbol :: symbols, rest)

/-- The character of a pair of surrogates. -/
def ofSurrogates (high low : Nat) : Char :=
  .ofNat (65536 + 1024 * (high - 55296) + (low - 56320))

/-- The characters up to the closing quotation mark, and what follows it. -/
def readChars : List Char → Option (List Char × List Char)
  | [] => none
  | symbol :: rest =>
      if symbol = '"' then some ([], rest)
      else if symbol = '\\' then
        match rest with
        | 'u' :: first :: second :: third :: fourth :: rest =>
            match codeUnit first second third fourth with
            | none => none
            | some unit =>
                if unit < 55296 ∨ 57343 < unit then push (.ofNat unit) (readChars rest)
                else
                  match rest with
                  | '\\' :: 'u' :: first :: second :: third :: fourth :: rest =>
                      match codeUnit first second third fourth with
                      | none => none
                      | some low =>
                          if unit < 56320 ∧ 56320 ≤ low ∧ low ≤ 57343 then
                            push (ofSurrogates unit low) (readChars rest)
                          else none
                  | _ => none
        | symbol :: rest =>
            match escaped symbol with
            | none => none
            | some symbol => push symbol (readChars rest)
        | [] => none
      else if symbol.toNat < 32 then none
      else push symbol (readChars rest)

/-- A text that is read as these characters inside a string. -/
def Spells (text symbols : List Char) : Prop :=
  ∀ rest, readChars (text ++ rest) =
    (readChars rest).map fun (more, rest) => (symbols ++ more, rest)

theorem spells_nil : Spells [] [] := by
  intro rest
  cases known : readChars rest with
  | none => simp [known]
  | some read => simp [known]

theorem Spells.append {text symbols text' symbols' : List Char} (front : Spells text symbols)
    (back : Spells text' symbols') : Spells (text ++ text') (symbols ++ symbols') := by
  intro rest
  rw [List.append_assoc, front, back]
  cases readChars rest with
  | none => rfl
  | some read => simp

theorem spells_flatMap {spell : Char → List Char} (spells : ∀ symbol, Spells (spell symbol) [symbol])
    (symbols : List Char) : Spells (symbols.flatMap spell) symbols := by
  induction symbols with
  | nil => exact spells_nil
  | cons symbol rest ih =>
      rw [List.flatMap_cons]
      exact (spells symbol).append ih

/-- A character that needs no escape. -/
theorem spells_plain {symbol : Char} (quote : symbol ≠ '"') (backslash : symbol ≠ '\\')
    (visible : 32 ≤ symbol.toNat) : Spells [symbol] [symbol] := by
  intro rest
  have printed : ¬symbol.toNat < 32 := Nat.not_lt.mpr visible
  rw [List.singleton_append, readChars.eq_def]
  simp only [quote, backslash, printed, if_false]
  rfl

theorem spells_escape {symbol escape : Char} (known : escaped escape = some symbol) :
    Spells ['\\', escape] [symbol] := by
  intro rest
  show readChars ('\\' :: escape :: rest) = _
  rw [readChars.eq_def]
  dsimp only
  rw [if_neg (by decide), if_pos rfl]
  split
  next same =>
    obtain ⟨rfl, -⟩ := List.cons.inj same
    exact absurd known (by simp [escaped])
  next same =>
    obtain ⟨rfl, rfl⟩ := List.cons.inj same
    rw [known]
    rfl
  next same => cases same

theorem spells_unit {first second third fourth : Char} {unit : Nat}
    (known : codeUnit first second third fourth = some unit)
    (scalar : unit < 55296 ∨ 57343 < unit) :
    Spells ['\\', 'u', first, second, third, fourth] [.ofNat unit] := by
  intro rest
  show readChars ('\\' :: 'u' :: first :: second :: third :: fourth :: rest) = _
  rw [readChars.eq_def]
  simp only [known, scalar, if_true]
  rfl

/-! ## Values -/

/-- A value that is neither an object nor an array. -/
inductive Scalar where
  | text (value : String)
  | number (value : Int)
  | bool (value : Bool)
  | null
deriving DecidableEq

/-- An integer without an exponent: no zero stands before another digit. -/
def readNatural (input : List Char) : Option (Nat × List Char) :=
  let digits := input.takeWhile Char.isDigit
  let rest := input.dropWhile Char.isDigit
  if digits = [] ∨ digits.head? = some '0' ∧ digits ≠ ['0'] ∨
      rest.head? = some '.' ∨ rest.head? = some 'e' ∨ rest.head? = some 'E' then none
  else some (Nat.ofDigitChars 10 digits 0, rest)

def readNumber (input : List Char) : Option (Int × List Char) :=
  match input with
  | '-' :: rest => (readNatural rest).map fun (value, rest) => (-(value : Int), rest)
  | _ => (readNatural input).map fun (value, rest) => ((value : Int), rest)

/-- Read a value that starts here. -/
def readScalar (input : List Char) : Option (Scalar × List Char) :=
  match input with
  | '"' :: rest => (readChars rest).map fun (symbols, rest) => (.text (.ofList symbols), rest)
  | 't' :: 'r' :: 'u' :: 'e' :: rest => some (.bool true, rest)
  | 'f' :: 'a' :: 'l' :: 's' :: 'e' :: rest => some (.bool false, rest)
  | 'n' :: 'u' :: 'l' :: 'l' :: rest => some (.null, rest)
  | _ => (readNumber input).map fun (value, rest) => (.number value, rest)

/-- What follows a value of an object. -/
def Ends (rest : List Char) : Prop :=
  rest.head? = some ',' ∨ rest.head? = some '}'

/-- A text that is read as this value inside an object. -/
def Shows (text : List Char) (value : Scalar) : Prop :=
  (∀ symbol ∈ text.head?, isSpace symbol = false) ∧
    ∀ rest, Ends rest → readScalar (text ++ rest) = some (value, rest)

/-- A string between its quotation marks. -/
def quoted (text : List Char) : List Char :=
  '"' :: (text ++ ['"'])

theorem readChars_quoted {text symbols : List Char} (spells : Spells text symbols)
    (rest : List Char) : readChars (text ++ '"' :: rest) = some (symbols, rest) := by
  rw [spells, readChars.eq_def]
  simp

theorem shows_quoted {text : List Char} {value : String} (spells : Spells text value.toList) :
    Shows (quoted text) (.text value) := by
  constructor
  · intro symbol first
    cases first
    rfl
  · intro rest ends
    have read := readChars_quoted spells rest
    simp [quoted, readScalar, read]

theorem shows_bool (value : Bool) :
    Shows (if value then "true".toList else "false".toList) (.bool value) := by
  cases value with
  | true =>
      constructor
      · intro symbol first
        cases first
        rfl
      · intro rest ends
        rfl
  | false =>
      constructor
      · intro symbol first
        cases first
        rfl
      · intro rest ends
        rfl

/-- The digits of a number do not start with a zero. -/
theorem head?_toDigits {value : Nat} (positive : 0 < value) :
    (Nat.toDigits 10 value).head? ≠ some '0' := by
  induction value using Nat.strongRecOn with
  | ind value ih =>
      by_cases small : value < 10
      · rw [Nat.toDigits_of_lt_base small]
        have table : ∀ value < 10, 0 < value → [value.digitChar].head? ≠ some '0' := by decide
        exact table value small positive
      · have large : 10 ≤ value := Nat.not_lt.mp small
        rw [Nat.toDigits_of_base_le (by decide) large, List.head?_append]
        have front := ih (value / 10) (by omega) (by omega)
        cases first : (Nat.toDigits 10 (value / 10)).head? with
        | none => exact absurd (List.head?_eq_none_iff.mp first) Nat.toDigits_ne_nil
        | some symbol =>
            rw [first] at front
            simpa using front

theorem readNatural_toDigits (value : Nat) {rest : List Char} (ends : Ends rest) :
    readNatural (Nat.toDigits 10 value ++ rest) = some (value, rest) := by
  have digits : ∀ symbol ∈ Nat.toDigits 10 value, symbol.isDigit = true :=
    fun symbol member => Nat.isDigit_of_mem_toDigits (by decide) (by decide) member
  have stops : rest.takeWhile Char.isDigit = [] ∧ rest.dropWhile Char.isDigit = rest ∧
      ¬(rest.head? = some '.' ∨ rest.head? = some 'e' ∨ rest.head? = some 'E') := by
    cases rest with
    | nil =>
        rcases ends with ends | ends
        · cases ends
        · cases ends
    | cons symbol rest =>
        rcases ends with ends | ends
        · cases ends
          exact ⟨rfl, rfl, by simp⟩
        · cases ends
          exact ⟨rfl, rfl, by simp⟩
  have leading : ¬((Nat.toDigits 10 value).head? = some '0' ∧ Nat.toDigits 10 value ≠ ['0']) := by
    rintro ⟨first, other⟩
    rcases Nat.eq_zero_or_pos value with rfl | positive
    · exact other (Nat.toDigits_zero 10)
    · exact head?_toDigits positive first
  unfold readNatural
  rw [List.takeWhile_append_of_pos digits, List.dropWhile_append_of_pos digits, stops.1, stops.2.1,
    List.append_nil, if_neg, Nat.ofDigitChars_ten_toDigits]
  rintro (none | zero | follows)
  · exact Nat.toDigits_ne_nil none
  · exact leading zero
  · exact stops.2.2 follows

theorem shows_natural (value : Nat) : Shows (Nat.toDigits 10 value) (.number value) := by
  cases text : Nat.toDigits 10 value with
  | nil => exact absurd text Nat.toDigits_ne_nil
  | cons symbol digits =>
      have member : symbol ∈ Nat.toDigits 10 value := by
        rw [text]
        exact List.mem_cons_self
      have digit := Nat.isDigit_of_mem_toDigits (by decide) (by decide) member
      have range : 48 ≤ symbol.toNat ∧ symbol.toNat ≤ 57 := by
        simpa [Char.isDigit, UInt32.le_iff_toNat_le] using digit
      have other {symbol' : Char} (outside : symbol'.toNat < 48 ∨ 57 < symbol'.toNat) :
          symbol ≠ symbol' := by
        rintro rfl
        omega
      constructor
      · intro first same
        cases same
        have blank : symbol ≠ ' ' := other (by decide)
        have tab : symbol ≠ '\t' := other (by decide)
        have line : symbol ≠ '\n' := other (by decide)
        have carriage : symbol ≠ '\r' := other (by decide)
        simp [isSpace, blank, tab, line, carriage]
      · intro rest ends
        have read := readNatural_toDigits value ends
        rw [text] at read
        rw [List.cons_append] at read ⊢
        unfold readScalar
        split
        next same => exact absurd (List.cons.inj same).1 (other (by decide))
        next same => exact absurd (List.cons.inj same).1 (other (by decide))
        next same => exact absurd (List.cons.inj same).1 (other (by decide))
        next same => exact absurd (List.cons.inj same).1 (other (by decide))
        · unfold readNumber
          split
          next same => exact absurd (List.cons.inj same).1 (other (by decide))
          · rw [read]
            rfl

/-! ## Objects -/

/-- Read a member of an object. -/
def readMember (input : List Char) : Option ((String × Scalar) × List Char) :=
  match skip input with
  | '"' :: rest =>
      match readChars rest with
      | none => none
      | some (key, rest) =>
          match skip rest with
          | ':' :: rest => (readScalar (skip rest)).map fun (value, rest) =>
              ((.ofList key, value), rest)
          | _ => none
  | _ => none

/-- Read members up to the closing brace; each has at least one character. -/
def readMembers : Nat → List Char → Option (List (String × Scalar) × List Char)
  | 0, _ => none
  | fuel + 1, input =>
      match readMember input with
      | none => none
      | some (member, rest) =>
          match skip rest with
          | ',' :: rest => (readMembers fuel rest).map fun (members, rest) =>
              (member :: members, rest)
          | '\x7d' :: rest => some ([member], rest)
          | _ => none

/-- The members of an object, in the order of the text. -/
def readObject (text : String) : Option (List (String × Scalar)) :=
  match skip text.toList with
  | '\x7b' :: rest =>
      match skip rest with
      | '\x7d' :: rest => if skip rest = [] then some [] else none
      | rest =>
          match readMembers rest.length rest with
          | none => none
          | some (members, rest) => if skip rest = [] then some members else none
  | _ => none

/-- A text that is read as this member. -/
def ShowsMember (text : List Char) (member : String × Scalar) : Prop :=
  text.head? = some '"' ∧
    ∀ rest, Ends rest → readMember (text ++ rest) = some (member, rest)

theorem skip_of_head {input : List Char}
    (first : ∀ symbol ∈ input.head?, isSpace symbol = false) : skip input = input := by
  cases input with
  | nil => rfl
  | cons symbol rest => exact List.dropWhile_cons_of_neg (by simp [first symbol rfl])

theorem Shows.skip {text : List Char} {value : Scalar} (shows' : Shows text value)
    {rest : List Char} (ends : Ends rest) : skip (text ++ rest) = text ++ rest := by
  apply skip_of_head
  intro symbol first
  cases text with
  | nil =>
      rcases ends with ends | ends
      · rw [List.nil_append, ends] at first
        cases first
        rfl
      · rw [List.nil_append, ends] at first
        cases first
        rfl
  | cons head text => exact shows'.1 symbol first

theorem showsMember {key value : List Char} {name : String} {scalar : Scalar}
    (spells : Spells key name.toList) (shows' : Shows value scalar) :
    ShowsMember (quoted key ++ ':' :: value) (name, scalar) := by
  refine ⟨rfl, ?_⟩
  intro rest ends
  have text : quoted key ++ ':' :: value ++ rest =
      '"' :: (key ++ '"' :: (':' :: (value ++ rest))) := by
    simp [quoted]
  have opening (rest : List Char) : skip ('"' :: rest) = '"' :: rest :=
    skip_of_head (by simp [isSpace])
  have colon (rest : List Char) : skip (':' :: rest) = ':' :: rest :=
    skip_of_head (by simp [isSpace])
  rw [text, readMember, opening]
  simp only [readChars_quoted spells, colon, shows'.skip ends, shows'.2 rest ends,
    String.ofList_toList, Option.map_some]

theorem readMembers_text {first : List Char} {member : String × Scalar} {texts : List (List Char)}
    {members : List (String × Scalar)} (shows' : ShowsMember first member)
    (others : List.Forall₂ ShowsMember texts members) {fuel : Nat} (enough : texts.length < fuel)
    (rest : List Char) :
    readMembers fuel (first ++ (texts.flatMap (',' :: ·) ++ '\x7d' :: rest)) =
      some (member :: members, rest) := by
  have comma (rest : List Char) : skip (',' :: rest) = ',' :: rest :=
    skip_of_head (by simp [isSpace])
  have brace (rest : List Char) : skip ('\x7d' :: rest) = '\x7d' :: rest :=
    skip_of_head (by simp [isSpace])
  induction others generalizing first member fuel with
  | nil =>
      obtain ⟨fuel, rfl⟩ := Nat.exists_eq_succ_of_ne_zero (Nat.ne_zero_of_lt enough)
      rw [List.flatMap_nil, List.nil_append, readMembers, shows'.2 _ (.inr rfl)]
      simp only [brace]
  | @cons next member' texts members known others ih =>
      obtain ⟨fuel, rfl⟩ := Nat.exists_eq_succ_of_ne_zero (Nat.ne_zero_of_lt enough)
      rw [List.flatMap_cons, List.append_assoc, List.cons_append, readMembers,
        shows'.2 _ (.inl rfl)]
      simp only [comma, ih known (Nat.lt_of_succ_lt_succ enough), Option.map_some]

/-- An object is read from the texts of its members. -/
theorem readObject_text {first : List Char} {member : String × Scalar} {texts : List (List Char)}
    {members : List (String × Scalar)} (shows' : ShowsMember first member)
    (others : List.Forall₂ ShowsMember texts members) :
    readObject (.ofList ('\x7b' :: (first ++ (texts.flatMap (',' :: ·) ++ ['\x7d'])))) =
      some (member :: members) := by
  have opening (rest : List Char) : skip ('\x7b' :: rest) = '\x7b' :: rest :=
    skip_of_head (by simp [isSpace])
  have enough : texts.length < (first ++ (texts.flatMap (',' :: ·) ++ ['\x7d'])).length := by
    have length : texts.length ≤ (texts.flatMap (',' :: ·)).length := by
      induction texts generalizing members with
      | nil => exact Nat.zero_le _
      | cons text texts ih =>
          cases others with
          | cons known others =>
              have shorter := ih others
              rw [List.flatMap_cons, List.length_append, List.length_cons, List.length_cons]
              omega
    simp only [List.length_append, List.length_singleton]
    omega
  cases first with
  | nil => cases shows'.1
  | cons symbol first =>
      obtain rfl : symbol = '"' := Option.some.inj shows'.1
      have quote (rest : List Char) : skip ('"' :: rest) = '"' :: rest :=
        skip_of_head (by simp [isSpace])
      have read := readMembers_text shows' others enough []
      rw [readObject, String.toList_ofList, opening]
      rw [List.cons_append] at read ⊢
      simp only [quote]
      split
      next same => exact absurd (List.cons.inj same).1 (by decide)
      · rw [read]
        simp [skip]

end Json
