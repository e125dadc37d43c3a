import WorkflowLint.Proofs.Acceptance
import WorkflowLint.Proofs.JsonTexts

/-!
Contract: values that a JSON text gives back as they were.

Owns: the values that survive (`IsExact`: no doubles, integers within the digit limit, records with
distinct keys, no more than so many levels), and that the reader undoes the indented writer on them.

The reader has a bound on its steps, and the text after a value decides where a number ends.  So
`ReadsBack` speaks of a value inside a longer text, with a bound of at least the length of what is
written; items and members are inductions on lists over it.
-/

set_option autoImplicit false

namespace WorkflowLint

namespace Value

/-- A value that a JSON text holds without loss, inside at most so many brackets. -/
inductive IsExact : Nat → Value → Prop where
  | null {levels : Nat} : IsExact levels .null
  | bool {levels : Nat} (flag : Bool) : IsExact levels (.bool flag)
  | int {levels : Nat} {number : Int} (convertible : Decimal.IsConvertible number) :
      IsExact levels (.int number)
  | str {levels : Nat} (text : String) : IsExact levels (.str text)
  | list {levels : Nat} {items : List Value} (each : ∀ item ∈ items, IsExact levels item) :
      IsExact (levels + 1) (.list items)
  | record {levels : Nat} {fields : List (String × Value)} (distinct : (fields.map Prod.fst).Nodup)
      (each : ∀ field ∈ fields, IsExact levels field.2) : IsExact (levels + 1) (record fields)

/-- The entries of a record. -/
def entriesOf (fields : List (String × Value)) : List (Value × Value) :=
  fields.map fun field => (.str field.1, field.2)

theorem record_eq_map (fields : List (String × Value)) : record fields = .map (entriesOf fields) :=
  rfl

theorem insert_of_new {name : String} {value : Value} {fields : List (String × Value)}
    (isNew : name ∉ fields.map Prod.fst) :
    insert (.str name) value (entriesOf fields) = entriesOf (fields ++ [(name, value)]) := by
  induction fields with
  | nil => rfl
  | cons field others inductionHypothesis =>
      rw [List.map_cons, List.mem_cons, not_or] at isNew
      have differs : ¬ (Value.str name).same (.str field.1) = true := by
        rw [same_str_iff]
        intro equal
        cases equal
        exact isNew.1 rfl
      show insert _ _ ((.str field.1, field.2) :: entriesOf others) = _
      rw [insert, if_neg differs, inductionHypothesis isNew.2]
      rfl

end Value

namespace Json

/-! ## Blanks -/

theorem skipSpace_of_visible {c : Char} (visible : isSpace c = false) (rest : List Char) :
    skipSpace (c :: rest) = c :: rest := by
  rw [skipSpace, List.dropWhile_cons, if_neg (by simp [visible])]

theorem skipSpace_newLine (level : Nat) {c : Char} (visible : isSpace c = false)
    (rest : List Char) : skipSpace (newLine level ++ c :: rest) = c :: rest := by
  have blanks : ∀ b ∈ newLine level, isSpace b = true := by
    intro b member
    rcases List.mem_cons.mp member with rfl | filler
    · rfl
    · rw [List.eq_of_mem_replicate filler]
      rfl
  rw [skipSpace, List.dropWhile_append_of_pos blanks]
  exact skipSpace_of_visible visible rest

/-! ## Numbers -/

/-- Nothing that could belong to a number stands at the start. -/
def EndsNumber (rest : List Char) : Prop :=
  ∀ c ∈ rest.head?, c.isDigit = false ∧ c ≠ '.' ∧ c ≠ 'e' ∧ c ≠ 'E'

private theorem endsNumber_nil : EndsNumber [] := by
  simp [EndsNumber]

theorem endsNumber_comma (rest : List Char) : EndsNumber (',' :: rest) := by
  simp only [EndsNumber, List.head?_cons, Option.mem_some_iff, forall_eq']
  decide

theorem endsNumber_newLine (level : Nat) (rest : List Char) : EndsNumber (newLine level ++ rest) := by
  simp only [EndsNumber, newLine, List.cons_append, List.head?_cons, Option.mem_some_iff, forall_eq']
  decide

private theorem digitsValue_digitsOf (number : Nat) :
    Decimal.digitsValue (Decimal.digitsOf number) = number := by
  have commuted : (fun (value : Nat) (c : Char) => value * 10 + (c.toNat - 48)) =
      fun value c => 10 * value + (c.toNat - '0'.toNat) := by
    funext value c
    rw [Nat.mul_comm]
    rfl
  rw [Decimal.digitsValue, commuted, ← Nat.ofDigitChars_eq_foldl, Decimal.digitsOf,
    Nat.ofDigitChars_ten_toDigits]

theorem isDigit_of_mem_digitsOf {number : Nat} {c : Char} (member : c ∈ Decimal.digitsOf number) :
    c.isDigit = true :=
  Nat.isDigit_of_mem_toDigits (by decide) (by decide) member

/-- Only zero is written with a zero in front. -/
theorem head_digitsOf_ne_zero {number : Nat} (positive : 0 < number) :
    (Decimal.digitsOf number).head? ≠ some '0' := by
  induction number using Nat.strongRecOn with
  | ind number inductionHypothesis =>
      rw [Decimal.digitsOf, Nat.toDigits_eq_if (by decide)]
      split
      next small =>
        have nonzero : ∀ digit < 10, 0 < digit → [digit.digitChar].head? ≠ some '0' := by decide
        exact nonzero number small positive
      next large =>
        have smaller := inductionHypothesis (number / 10) (by omega) (by omega)
        rw [List.head?_append_of_ne_nil _ Nat.toDigits_ne_nil]
        exact smaller

private theorem wholePart?_digitsOf (number : Nat) {rest : List Char} (ends : EndsNumber rest) :
    wholePart? (Decimal.digitsOf number ++ rest) = some (Decimal.digitsOf number, rest) := by
  rcases Nat.eq_zero_or_pos number with rfl | positive
  · rfl
  · have leading := head_digitsOf_ne_zero positive
    have digits : ∀ c ∈ Decimal.digitsOf number, c.isDigit = true :=
      fun _ member => isDigit_of_mem_digitsOf member
    cases written : Decimal.digitsOf number with
    | nil => exact absurd written Nat.toDigits_ne_nil
    | cons first others =>
        rw [written] at leading digits
        obtain ⟨firstDigit, otherDigits⟩ := List.forall_mem_cons.mp digits
        have noMore : rest.takeWhile Char.isDigit = [] ∧ rest.dropWhile Char.isDigit = rest := by
          cases rest with
          | nil => exact ⟨rfl, rfl⟩
          | cons c after =>
              have notDigit := (ends c rfl).1
              exact ⟨List.takeWhile_cons_of_neg (by simp [notDigit]),
                List.dropWhile_cons_of_neg (by simp [notDigit])⟩
        rw [List.cons_append, wholePart?, if_pos firstDigit, List.takeWhile_append_of_pos otherDigits,
          List.dropWhile_append_of_pos otherDigits, noMore.1, noMore.2, List.append_nil]
        intro isZero
        exact leading (by rw [isZero]; rfl)

private theorem fractionPart_of_endsNumber {rest : List Char} (ends : EndsNumber rest) :
    fractionPart rest = ([], rest) := by
  unfold fractionPart
  split
  · exact absurd rfl (ends '.' rfl).2.1
  · rfl

private theorem exponentPart_of_endsNumber {rest : List Char} (ends : EndsNumber rest) :
    exponentPart rest = none := by
  cases rest with
  | nil => rfl
  | cons mark after =>
      obtain ⟨_, _, notSmall, notLarge⟩ := ends mark rfl
      unfold exponentPart
      simp only [if_neg (show ¬ (mark == 'e' || mark == 'E') = true by simp [notSmall, notLarge])]

private theorem readMagnitude_digitsOf {number : Nat} (negative : Bool)
    (short : (Decimal.digitsOf number).length ≤ Decimal.digitLimit) {rest : List Char}
    (ends : EndsNumber rest) :
    readMagnitude negative (Decimal.digitsOf number ++ rest) =
      .ok (.int (if negative then -(number : Int) else number), rest) := by
  rw [readMagnitude, wholePart?_digitsOf number ends]
  simp only [fractionPart_of_endsNumber ends, exponentPart_of_endsNumber ends,
    if_neg (Nat.not_lt.mpr short), digitsValue_digitsOf]

theorem afterWord?_of_ne {first c : Char} (differs : first ≠ c) (word text : List Char) :
    afterWord? (first :: word) (c :: text) = none := by
  rw [afterWord?, List.isPrefixOf_cons_cons, beq_false_of_ne differs, Bool.false_and,
    if_neg Bool.false_ne_true]

/-- The words for atoms that are no numbers, letter by letter. -/
theorem atomWords : "null".toList = ['n', 'u', 'l', 'l'] ∧ "true".toList = ['t', 'r', 'u', 'e'] ∧
    "false".toList = ['f', 'a', 'l', 's', 'e'] ∧ "NaN".toList = ['N', 'a', 'N'] ∧
    "Infinity".toList = ['I', 'n', 'f', 'i', 'n', 'i', 't', 'y'] ∧
    "-Infinity".toList = ['-', 'I', 'n', 'f', 'i', 'n', 'i', 't', 'y'] := by
  decide

/-- The first characters of a number rule out the words for other atoms. -/
theorem readAtom_number {c : Char} (isDigit : c.isDigit = true) (text : List Char) :
    readAtom (c :: text) = readMagnitude false (c :: text) ∧
      readAtom ('-' :: c :: text) = readMagnitude true (c :: text) := by
  have differs (letter : Char) (noDigit : letter.isDigit = false) : letter ≠ c := by
    rintro rfl
    rw [noDigit] at isDigit
    cases isDigit
  have unsigned (letter : Char) (noDigit : letter.isDigit = false) (word : List Char) :
      afterWord? (letter :: word) (c :: text) = none :=
    afterWord?_of_ne (differs letter noDigit) word text
  have signed (letter : Char) (noSign : letter ≠ '-') (word : List Char) :
      afterWord? (letter :: word) ('-' :: c :: text) = none :=
    afterWord?_of_ne noSign word (c :: text)
  have infinity (word : List Char) : afterWord? ('-' :: 'I' :: word) ('-' :: c :: text) = none := by
    rw [afterWord?, List.isPrefixOf_cons_cons, List.isPrefixOf_cons_cons,
      beq_false_of_ne (differs 'I' rfl), Bool.false_and, Bool.and_false, if_neg Bool.false_ne_true]
  obtain ⟨null, yes, no, notNumber, infinite, negativeInfinite⟩ := atomWords
  constructor
  · unfold readAtom
    rw [null, yes, no, notNumber, infinite, negativeInfinite]
    simp only [unsigned 'n' rfl, unsigned 't' rfl, unsigned 'f' rfl, unsigned 'N' rfl,
      unsigned 'I' rfl, unsigned '-' rfl]
    split
    next same =>
      cases same
      cases isDigit
    next => rfl
  · unfold readAtom
    rw [null, yes, no, notNumber, infinite, negativeInfinite]
    simp only [signed 'n' (by decide), signed 't' (by decide), signed 'f' (by decide),
      signed 'N' (by decide), signed 'I' (by decide), infinity]

private theorem readAtom_ofInt {number : Int} (convertible : Decimal.IsConvertible number)
    {rest : List Char} (ends : EndsNumber rest) :
    readAtom (Decimal.ofInt number ++ rest) = .ok (.int number, rest) := by
  have magnitude (negative : Bool) := readMagnitude_digitsOf negative convertible ends
  have digits : ∀ c ∈ Decimal.digitsOf number.natAbs, c.isDigit = true :=
    fun _ member => isDigit_of_mem_digitsOf member
  unfold Decimal.ofInt
  cases written : Decimal.digitsOf number.natAbs with
  | nil => exact absurd written Nat.toDigits_ne_nil
  | cons first others =>
      rw [written] at magnitude digits
      obtain ⟨unsigned, signed⟩ := readAtom_number (digits first List.mem_cons_self) (others ++ rest)
      split
      next isNegative =>
        show readAtom ('-' :: first :: (others ++ rest)) = _
        rw [signed, ← List.cons_append, magnitude true, if_pos rfl]
        congr 3
        omega
      next isNatural =>
        show readAtom (first :: (others ++ rest)) = _
        rw [unsigned, ← List.cons_append, magnitude false, if_neg Bool.false_ne_true]
        congr 3
        omega

/-! ## Values -/

/-- A character with which a written value can start. -/
def Opens (c : Char) : Prop := isSpace c = false ∧ c ≠ ']' ∧ c ≠ '\ufeff'

instance (c : Char) : Decidable (Opens c) := inferInstanceAs (Decidable (_ ∧ _ ∧ _))

/-- A reader that may follow so many levels gives a written value back inside every text, with a bound
that covers its length. -/
structure ReadsBack (levels : Nat) (value : Value) : Prop where
  opens : ∀ level, ∃ c text, indented level value = c :: text ∧ Opens c
  reads : ∀ {fuel level : Nat} {rest : List Char}, (indented level value).length ≤ fuel →
    EndsNumber rest → readValue levels fuel (indented level value ++ rest) = .ok (value, rest)

variable {levels : Nat}

theorem ReadsBack.skipSpace_newLine {value : Value} (back : ReadsBack levels value) (level : Nat)
    (rest : List Char) :
    skipSpace (newLine level ++ (indented level value ++ rest)) = indented level value ++ rest := by
  obtain ⟨c, text, written, visible, _⟩ := back.opens level
  rw [written, List.cons_append, Json.skipSpace_newLine level visible]

theorem ReadsBack.reads_blank {value : Value} (back : ReadsBack levels value) {fuel level : Nat}
    {rest : List Char} (enough : (indented level value).length ≤ fuel) (ends : EndsNumber rest) :
    readValue levels fuel (skipSpace (' ' :: (indented level value ++ rest))) = .ok (value, rest) := by
  obtain ⟨c, text, written, visible, _⟩ := back.opens level
  have skipped : skipSpace (' ' :: (indented level value ++ rest)) = indented level value ++ rest := by
    rw [written, List.cons_append, skipSpace, List.dropWhile_cons_of_pos rfl]
    exact skipSpace_of_visible visible (text ++ rest)
  rw [skipped]
  exact back.reads enough ends

private theorem readValue_atom {c : Char} (noBracket : c ≠ '"' ∧ c ≠ '{' ∧ c ≠ '[') (fuel : Nat)
    (text : List Char) : readValue levels (fuel + 1) (c :: text) = readAtom (c :: text) := by
  obtain ⟨notText, notMap, notList⟩ := noBracket
  rw [readValue]
  · rintro rest same
    cases same
    exact notText rfl
  · rintro rest same
    cases same
    exact notMap rfl
  · rintro rest same
    cases same
    exact notList rfl

/-- A value that is written as one atom reads back when the atom does. -/
theorem readsBack_of_atom {value : Value} {c : Char} {text : List Char}
    (written : ∀ level, indented level value = c :: text) (opens : Opens c)
    (noBracket : c ≠ '"' ∧ c ≠ '{' ∧ c ≠ '[')
    (reads : ∀ rest, EndsNumber rest → readAtom (c :: text ++ rest) = .ok (value, rest)) :
    ReadsBack levels value where
  opens level := ⟨c, text, written level, opens⟩
  reads := by
    intro fuel level rest enough ends
    rw [written, List.length_cons] at enough
    obtain ⟨more, rfl⟩ : ∃ more, fuel = more + 1 := ⟨fuel - 1, by omega⟩
    rw [written, List.cons_append, readValue_atom noBracket]
    exact reads rest ends

private theorem readsBack_int {number : Int} (convertible : Decimal.IsConvertible number) :
    ReadsBack levels (.int number) := by
  have read (rest : List Char) (ends : EndsNumber rest) := readAtom_ofInt convertible ends
  have digit {c : Char} (isDigit : c.isDigit = true) :
      Opens c ∧ c ≠ '"' ∧ c ≠ '{' ∧ c ≠ '[' := by
    have differs (other : Char) (noDigit : other.isDigit = false) : c ≠ other := by
      rintro rfl
      rw [noDigit] at isDigit
      cases isDigit
    refine ⟨⟨?_, differs _ rfl, differs _ rfl⟩, differs _ rfl, differs _ rfl, differs _ rfl⟩
    simp [isSpace, differs ' ' rfl, differs '\t' rfl, differs '\n' rfl, differs '\r' rfl]
  have written (level : Nat) : indented level (.int number) = Decimal.ofInt number := by
    simp [indented, scalar]
  unfold Decimal.ofInt at read written
  split at read
  next isNegative =>
    simp only [if_pos isNegative] at written
    exact readsBack_of_atom written (by decide) (by decide) read
  next isNatural =>
    simp only [if_neg isNatural] at written
    cases digits : Decimal.digitsOf number.natAbs with
    | nil => exact absurd digits Nat.toDigits_ne_nil
    | cons first others =>
        rw [digits] at read
        simp only [digits] at written
        have isDigit : first.isDigit = true :=
          isDigit_of_mem_digitsOf (by rw [digits]; exact List.mem_cons_self)
        exact readsBack_of_atom written (digit isDigit).1 (digit isDigit).2 read

private theorem readsBack_str (text : String) : ReadsBack levels (.str text) := by
  have written (level : Nat) :
      indented level (.str text) = '"' :: (text.toList.flatMap escapedChar ++ ['"']) := by
    simp [indented, scalar, quotedText]
  constructor
  · intro level
    exact ⟨'"', _, written level, by decide⟩
  · intro fuel level rest enough ends
    rw [written, List.length_cons] at enough
    obtain ⟨more, rfl⟩ : ∃ more, fuel = more + 1 := ⟨fuel - 1, by omega⟩
    rw [written, List.cons_append, readValue, readText_quoted text.toList rest (by simp)]
    show Except.ok (Value.str (String.ofList text.toList), rest) = _
    rw [String.ofList_toList]

/-! ## Items and members -/

section Written

variable {level : Nat}

theorem indentedItems_cons {item : Value} {others : List Value} (more : others ≠ []) :
    indentedItems level (item :: others) =
      newLine level ++ indented level item ++ ',' :: indentedItems level others := by
  rw [indentedItems]
  exact more

/-- The first item stands on a line of its own, whatever follows. -/
theorem exists_indentedItems_eq (item : Value) (others : List Value) :
    ∃ tail, indentedItems level (item :: others) = newLine level ++ (indented level item ++ tail) := by
  by_cases isLast : others = []
  · subst isLast
    exact ⟨[], by rw [indentedItems, List.append_nil]⟩
  · exact ⟨_, by rw [indentedItems_cons isLast, List.append_assoc]⟩

theorem indentedEntries_single (field : String × Value) :
    indentedEntries level (Value.entriesOf [field]) =
      newLine level ++ (quotedText field.1.toList ++ ':' :: ' ' :: indented level field.2) := by
  rw [← List.append_assoc]
  exact indentedEntries.eq_2 level (.str field.1) field.2

theorem indentedEntries_cons {field : String × Value} {others : List (String × Value)}
    (more : others ≠ []) :
    indentedEntries level (Value.entriesOf (field :: others)) =
      newLine level ++ (quotedText field.1.toList ++ ':' :: ' ' :: indented level field.2 ++
        ',' :: indentedEntries level (Value.entriesOf others)) := by
  show indentedEntries level ((.str field.1, field.2) :: Value.entriesOf others) = _
  rw [indentedEntries]
  · simp [key]
  · intro isNil
    exact more (List.map_eq_nil_iff.mp isNil)

/-- The first key stands on a line of its own, whatever follows. -/
theorem exists_indentedEntries_eq (field : String × Value) (others : List (String × Value)) :
    ∃ tail, indentedEntries level (Value.entriesOf (field :: others)) =
      newLine level ++ '"' :: tail := by
  by_cases isLast : others = []
  · subst isLast
    exact ⟨_, indentedEntries_single field⟩
  · exact ⟨_, indentedEntries_cons isLast⟩

theorem indented_list {items : List Value} (filled : items ≠ []) :
    indented level (.list items) =
      '[' :: (indentedItems (level + 1) items ++ (newLine level ++ [']'])) := by
  rw [indented]
  · simp
  · exact filled

theorem indented_record {fields : List (String × Value)} (filled : fields ≠ []) :
    indented level (Value.record fields) =
      '{' :: (indentedEntries (level + 1) (Value.entriesOf fields) ++ (newLine level ++ ['}'])) := by
  rw [Value.record_eq_map, indented]
  · simp
  · intro isNil
    exact filled (List.map_eq_nil_iff.mp isNil)

end Written

section Steps

variable {fuel : Nat} {text after more rest : List Char}

private theorem readItems_last {item : Value} (read : readValue levels fuel text = .ok (item, after))
    (closes : skipSpace after = ']' :: rest) : readItems levels (fuel + 1) text = .ok ([item], rest) := by
  rw [readItems, read, Sequence.ok_bind]
  simp only [closes]
  rfl

private theorem readItems_more {item : Value} {items : List Value}
    (read : readValue levels fuel text = .ok (item, after)) (continues : skipSpace after = ',' :: more)
    (others : readItems levels fuel (skipSpace more) = .ok (items, rest)) :
    readItems levels (fuel + 1) text = .ok (item :: items, rest) := by
  rw [readItems, read, Sequence.ok_bind]
  simp only [continues, others]
  rfl

private theorem readValue_list {items : List Value} (filled : ∀ after, skipSpace text ≠ ']' :: after)
    (read : readItems levels fuel (skipSpace text) = .ok (items, rest)) :
    readValue (levels + 1) (fuel + 1) ('[' :: text) = .ok (.list items, rest) := by
  rw [readValue, deeper, Sequence.ok_bind]
  split
  next after isNil => exact absurd isNil (filled after)
  next =>
    rw [read]
    rfl

variable {name : String} {value : Value} {before entries : List (Value × Value)}

private theorem readMembers_last (read : readValue levels fuel (skipSpace text) = .ok (value, after))
    (closes : skipSpace after = '}' :: rest) :
    readMembers levels (fuel + 1) before (quotedText name.toList ++ ':' :: text) =
      .ok (Value.insert (.str name) value before, rest) := by
  rw [quotedText, List.cons_append, List.cons_append, readMembers,
    readText_quoted name.toList (':' :: text) (by simp), Sequence.ok_bind]
  simp only [skipSpace_of_visible (show isSpace ':' = false from rfl), read, Sequence.ok_bind, closes,
    String.ofList_toList]
  rfl

private theorem readMembers_more (read : readValue levels fuel (skipSpace text) = .ok (value, after))
    (continues : skipSpace after = ',' :: more)
    (others : readMembers levels fuel (Value.insert (.str name) value before) (skipSpace more) =
      .ok (entries, rest)) :
    readMembers levels (fuel + 1) before (quotedText name.toList ++ ':' :: text) = .ok (entries, rest) := by
  rw [quotedText, List.cons_append, List.cons_append, readMembers,
    readText_quoted name.toList (':' :: text) (by simp), Sequence.ok_bind]
  simp only [skipSpace_of_visible (show isSpace ':' = false from rfl), read, Sequence.ok_bind,
    continues, String.ofList_toList, others]

private theorem readValue_map (filled : ∀ after, skipSpace text ≠ '}' :: after)
    (read : readMembers levels fuel [] (skipSpace text) = .ok (entries, rest)) :
    readValue (levels + 1) (fuel + 1) ('{' :: text) = .ok (.map entries, rest) := by
  rw [readValue, deeper, Sequence.ok_bind]
  split
  next after isNil => exact absurd isNil (filled after)
  next =>
    rw [read]
    rfl

end Steps

/-- Written items read back up to the bracket that closes them. -/
theorem readItems_indented {items : List Value} (each : ∀ item ∈ items, ReadsBack levels item)
    (filled : items ≠ []) {fuel level : Nat} (enough : (indentedItems level items).length ≤ fuel)
    (outer : Nat) (rest : List Char) :
    readItems levels fuel (skipSpace (indentedItems level items ++ (newLine outer ++ ']' :: rest))) =
      .ok (items, rest) := by
  have closes := skipSpace_newLine outer (show isSpace ']' = false from rfl) rest
  induction items generalizing fuel with
  | nil => exact absurd rfl filled
  | cons item others inductionHypothesis =>
      obtain ⟨own, othersEach⟩ := List.forall_mem_cons.mp each
      by_cases isLast : others = []
      · subst isLast
        rw [indentedItems] at enough ⊢
        simp only [newLine, List.length_append, List.length_cons] at enough
        obtain ⟨more, rfl⟩ : ∃ more, fuel = more + 1 := ⟨fuel - 1, by omega⟩
        rw [List.append_assoc, own.skipSpace_newLine]
        exact readItems_last (own.reads (by omega) (endsNumber_newLine outer _)) closes
      · rw [indentedItems_cons isLast] at enough ⊢
        simp only [newLine, List.length_append, List.length_cons] at enough
        obtain ⟨more, rfl⟩ : ∃ more, fuel = more + 1 := ⟨fuel - 1, by omega⟩
        rw [List.append_assoc, List.append_assoc, own.skipSpace_newLine]
        refine readItems_more (own.reads (by omega) (endsNumber_comma _))
          (skipSpace_of_visible rfl _) ?_
        exact inductionHypothesis othersEach isLast (by omega)

/-- Written fields read back up to the brace that closes them, after fields read before. -/
theorem readMembers_indented {fields : List (String × Value)}
    (each : ∀ field ∈ fields, ReadsBack levels field.2) (filled : fields ≠ [])
    {before : List (String × Value)} (distinct : ((before ++ fields).map Prod.fst).Nodup)
    {fuel level : Nat} (enough : (indentedEntries level (Value.entriesOf fields)).length ≤ fuel)
    (outer : Nat) (rest : List Char) :
    readMembers levels fuel (Value.entriesOf before)
        (skipSpace (indentedEntries level (Value.entriesOf fields) ++
          (newLine outer ++ '}' :: rest))) =
      .ok (Value.entriesOf (before ++ fields), rest) := by
  have closes := skipSpace_newLine outer (show isSpace '}' = false from rfl) rest
  have quote (name : List Char) (after : List Char) :
      skipSpace (newLine level ++ (quotedText name ++ after)) = quotedText name ++ after :=
    skipSpace_newLine level (show isSpace '"' = false from rfl) _
  induction fields generalizing before fuel with
  | nil => exact absurd rfl filled
  | cons field others inductionHypothesis =>
      obtain ⟨own, othersEach⟩ := List.forall_mem_cons.mp each
      have isNew : field.1 ∉ before.map Prod.fst := by
        rw [List.map_append, List.map_cons] at distinct
        intro known
        exact (List.nodup_append.mp distinct).2.2 _ known _ List.mem_cons_self rfl
      have inserted : Value.insert (.str field.1) field.2 (Value.entriesOf before) =
          Value.entriesOf (before ++ [field]) :=
        Value.insert_of_new isNew
      by_cases isLast : others = []
      · subst isLast
        rw [indentedEntries_single] at enough ⊢
        simp only [newLine, List.length_append, List.length_cons] at enough
        obtain ⟨more, rfl⟩ : ∃ more, fuel = more + 1 := ⟨fuel - 1, by omega⟩
        simp only [List.append_assoc, List.cons_append]
        rw [quote, ← inserted]
        exact readMembers_last (own.reads_blank (by omega) (endsNumber_newLine outer _)) closes
      · rw [indentedEntries_cons isLast] at enough ⊢
        simp only [newLine, List.length_append, List.length_cons] at enough
        obtain ⟨more, rfl⟩ : ∃ more, fuel = more + 1 := ⟨fuel - 1, by omega⟩
        simp only [List.append_assoc, List.cons_append]
        rw [quote]
        refine readMembers_more (own.reads_blank (by omega) (endsNumber_comma _))
          (skipSpace_of_visible rfl _) ?_
        rw [List.append_cons before field others] at distinct ⊢
        rw [inserted]
        exact inductionHypothesis othersEach isLast distinct (by omega)

/-! ## Collections -/

theorem readsBack_list {items : List Value} (each : ∀ item ∈ items, ReadsBack levels item) :
    ReadsBack (levels + 1) (.list items) := by
  cases items with
  | nil =>
      have written (level : Nat) : indented level (.list []) = ['[', ']'] := indented.eq_1 level
      constructor
      · intro level
        exact ⟨'[', [']'], written level, by decide⟩
      · intro fuel level rest enough _
        rw [written, List.length_cons] at enough
        obtain ⟨more, rfl⟩ : ∃ more, fuel = more + 1 := ⟨fuel - 1, by omega⟩
        rw [written]
        rfl
  | cons item others =>
      have filled : item :: others ≠ [] := List.cons_ne_nil item others
      constructor
      · intro level
        exact ⟨'[', _, indented_list filled, by decide⟩
      · intro fuel level rest enough _
        rw [indented_list filled] at enough ⊢
        simp only [List.length_cons, List.length_append] at enough
        obtain ⟨more, rfl⟩ : ∃ more, fuel = more + 1 := ⟨fuel - 1, by omega⟩
        simp only [List.cons_append, List.append_assoc, List.nil_append]
        refine readValue_list ?_ (readItems_indented each filled (by omega) level rest)
        -- What follows is the first item, which does not start with a closing bracket.
        intro after isClosed
        have own := each item List.mem_cons_self
        obtain ⟨tail, written⟩ := @exists_indentedItems_eq (level + 1) item others
        obtain ⟨c, text, starts, _, notClosing, _⟩ := own.opens (level + 1)
        rw [written, List.append_assoc, List.append_assoc, own.skipSpace_newLine, starts] at isClosed
        exact notClosing (List.head_eq_of_cons_eq isClosed)

private theorem readsBack_record {fields : List (String × Value)}
    (distinct : (fields.map Prod.fst).Nodup)
    (each : ∀ field ∈ fields, ReadsBack levels field.2) :
    ReadsBack (levels + 1) (Value.record fields) := by
  cases fields with
  | nil =>
      have written (level : Nat) : indented level (Value.record []) = ['{', '}'] :=
        indented.eq_5 level
      constructor
      · intro level
        exact ⟨'{', ['}'], written level, by decide⟩
      · intro fuel level rest enough _
        rw [written, List.length_cons] at enough
        obtain ⟨more, rfl⟩ : ∃ more, fuel = more + 1 := ⟨fuel - 1, by omega⟩
        rw [written]
        rfl
  | cons field others =>
      have filled : field :: others ≠ [] := List.cons_ne_nil field others
      constructor
      · intro level
        exact ⟨'{', _, indented_record filled, by decide⟩
      · intro fuel level rest enough _
        rw [indented_record filled] at enough ⊢
        simp only [List.length_cons, List.length_append] at enough
        obtain ⟨more, rfl⟩ : ∃ more, fuel = more + 1 := ⟨fuel - 1, by omega⟩
        simp only [List.cons_append, List.append_assoc, List.nil_append]
        have members := @readMembers_indented _ _ each filled [] distinct more (level + 1) (by omega)
          level rest
        refine readValue_map ?_ members
        intro after isClosed
        obtain ⟨tail, written⟩ := @exists_indentedEntries_eq (level + 1) field others
        rw [written, List.append_assoc, List.cons_append, skipSpace_newLine _ rfl] at isClosed
        cases isClosed

private theorem readsBack_of_isExact {value : Value} (isExact : value.IsExact levels) :
    ReadsBack levels value := by
  induction isExact with
  | null =>
      have written (level : Nat) : indented level .null = ['n', 'u', 'l', 'l'] := by
        simp [indented, scalar]
      exact readsBack_of_atom written (by decide) (by decide) fun _ _ => rfl
  | bool flag =>
      cases flag with
      | true =>
          have written (level : Nat) : indented level (.bool true) = ['t', 'r', 'u', 'e'] := by
            simp [indented, scalar]
          exact readsBack_of_atom written (by decide) (by decide) fun _ _ => rfl
      | false =>
          have written (level : Nat) : indented level (.bool false) = ['f', 'a', 'l', 's', 'e'] := by
            simp [indented, scalar]
          exact readsBack_of_atom written (by decide) (by decide) fun _ _ => rfl
  | int convertible => exact readsBack_int convertible
  | str text => exact readsBack_str text
  | list _ inductionHypothesis => exact readsBack_list inductionHypothesis
  | record distinct _ inductionHypothesis => exact readsBack_record distinct inductionHypothesis

/-- Reading what is written for a value gives the value back. -/
theorem decode_encode {value : Value} (isExact : value.IsExact nestingLimit) :
    decode (encode value).toList = .ok value := by
  have back := readsBack_of_isExact isExact
  obtain ⟨c, text, written, visible, _, notMark⟩ := back.opens 0
  have read := @back.reads (text.length + 1 + 1) 0 [] (by rw [written, List.length_cons]; omega)
    endsNumber_nil
  rw [written, List.append_nil] at read
  rw [encode, String.toList_ofList, written, decode]
  · rw [List.length_cons, skipSpace_of_visible visible, read]
    rfl
  · intro rest isMark
    exact notMark (List.head_eq_of_cons_eq isMark)

end Json

end WorkflowLint
