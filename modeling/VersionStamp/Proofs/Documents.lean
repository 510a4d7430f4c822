/-
# VersionStamp.Proofs.Documents — reading back what was printed

A printed document is read back as the value that it was printed from (`readWithin_pretty`), by
every reader that goes deep enough and takes the numbers in it (`Readable`).  There is no condition
on texts: the quote, the backslash and the controls are escaped, and one turn of the reader undoes
the escape of one character (`readString_escapedChar`).

The reader does not know where a value ends, and a number would go on with the next digit.  So each
lemma speaks of a value together with what stands behind it, which in a printed document is nothing,
a comma or a new line (`IsBehind`).  The fuel of a loop is more than the length of the text that is
left, and each turn takes at least one character of it.
-/
import VersionStamp.Proofs.Magnitudes
import VersionStamp.Proofs.Numerals

namespace VersionStamp.JsonValue

variable {limits : JsonLimits} {bound depth indent outer fuel : Nat} {rest cs cs' : List Char}
  {v : JsonValue} {vs : List JsonValue}

/-! ## Strings

A character is written as itself, with a backslash before it, or as an escape by number, and the
reader takes all of it in one turn.  So the fuel that is left after a character is enough for what
is left of the text, and the whole text is read back by induction on it. -/

theorem hexDigit?_digitChar : ∀ d < 16, hexDigit? (Nat.digitChar d) = some d := by decide

theorem readUnicode_control {c : Char} (control : c.toNat < 32) (cs : List Char) :
    readUnicode ('0' :: '0' :: Nat.digitChar (c.toNat / 16) :: Nat.digitChar (c.toNat % 16) :: cs) =
      .ok (c, cs) := by
  have zero : hexDigit? '0' = some 0 := by decide
  have high := hexDigit?_digitChar (c.toNat / 16) (by omega)
  have low := hexDigit?_digitChar (c.toNat % 16) (by omega)
  have number : (0 * 16 + 0) * 16 * 16 + c.toNat / 16 * 16 + c.toNat % 16 = c.toNat := by omega
  have unit : unit? ('0' :: '0' :: Nat.digitChar (c.toNat / 16) ::
      Nat.digitChar (c.toNat % 16) :: cs) = some (c.toNat, cs) := by
    simp only [unit?, zero, high, low, Option.pure_def, Option.bind_eq_bind, Option.bind_some]
    rw [← number]
    congr 2
    omega
  have no_half : isTrailing c.toNat = false ∧ isLeading c.toNat = false := by
    simp only [isTrailing, isLeading, Bool.and_eq_false_iff, decide_eq_false_iff_not]
    omega
  simp [readUnicode, readHex, unit, no_half, bind, Except.bind, pure, Except.pure]

/-- One turn of the reader undoes the escape of one character. -/
theorem readString_escapedChar (read : List Char) (c : Char) (cs : List Char) (fuel : Nat) :
    readString read (escapedChar c ++ cs) (fuel + 1) = readString (c :: read) cs fuel := by
  unfold escapedChar
  split
  · rfl
  · rfl
  · rfl
  · rfl
  · rfl
  · rfl
  · rfl
  · next no_quote no_backslash _ _ _ _ _ =>
    split
    · next control =>
      have unicode := readUnicode_control control cs
      simp [readString, readEscape, unicode, bind, Except.bind]
    · next shown =>
      rw [List.singleton_append, readString]
      · exact if_neg shown
      · simpa using no_quote
      · simpa using no_backslash

theorem length_escapedChar_pos (c : Char) : 0 < (escapedChar c).length := by
  unfold escapedChar
  split <;> first | exact Nat.succ_pos _ | (split <;> exact Nat.succ_pos _)

theorem readString_flatMap_escapedChar (text read rest : List Char) {fuel : Nat}
    (enough : (text.flatMap escapedChar ++ '"' :: rest).length ≤ fuel) :
    readString read (text.flatMap escapedChar ++ '"' :: rest) fuel =
      .ok (read.reverse ++ text, rest) := by
  induction text generalizing read fuel with
  | nil =>
      cases fuel with
      | zero => simp at enough
      | succ fuel => simp [readString]
  | cons c text ih =>
      have taken := length_escapedChar_pos c
      simp only [List.flatMap_cons, List.append_assoc, List.length_append] at enough ⊢
      cases fuel with
      | zero => omega
      | succ fuel =>
          rw [readString_escapedChar, ih (c :: read) (by simp only [List.length_append]; omega)]
          simp

/-! ## Numbers

Digits are read until something else comes.  What stands behind a value in a printed document is no
digit, no point and no exponent, so a number ends where it was printed to end.  Whether the reader
takes it is a question about the reader (`Admits`). -/

/-- What can stand behind a value in a printed document. -/
def IsBehind (rest : List Char) : Prop := ∀ c ∈ rest.head?, c = ',' ∨ c = '\n'

theorem isBehind_nil : IsBehind [] := nofun

theorem isBehind_comma (cs : List Char) : IsBehind (',' :: cs) := by
  rintro c ⟨⟩
  exact .inl rfl

theorem isBehind_newLine (depth : Nat) (cs : List Char) : IsBehind (newLine depth ++ cs) := by
  rintro c ⟨⟩
  exact .inr rfl

/-- The reader takes the number. -/
def Admits (limits : JsonLimits) (n : Nat) : Prop :=
  limits.isTooLarge (Json.Magnitude.ofWhole (Nat.toDigits 10 n)) = false

theorem admits_floating {n : Nat} (fits : n < UInt64.size) : Admits .floating n :=
  Json.Magnitude.not_isTooLarge_ofWhole fits

theorem admits_spelled (n : Nat) : Admits .spelled n := rfl

theorem Admits.endNumber_eq {n : Nat} (admitted : Admits limits n) (rest : List Char) :
    endNumber limits (Nat.toDigits 10 n) (Json.Magnitude.ofWhole (Nat.toDigits 10 n)) rest =
      .ok (.ofNat n, rest) := by
  rw [endNumber, admitted, if_neg Bool.false_ne_true]
  rfl

theorem readFraction_of_isBehind (behind : IsBehind rest) (read : List Char) (m : Json.Magnitude) :
    readFraction limits read m rest = endNumber limits read m rest := by
  cases rest with
  | nil => rfl
  | cons c rest =>
      rcases behind c rfl with rfl | rfl
      · rfl
      · rfl

theorem readNumber_toDigits {n : Nat} (admitted : Admits limits n) (behind : IsBehind rest) :
    readNumber limits [] (Nat.toDigits 10 n ++ rest) = .ok (.ofNat n, rest) := by
  have no_digit : ∀ c ∈ rest.head?, ¬ c.isDigit = true := by
    intro c mem
    rcases behind c mem with rfl | rfl
    · decide
    · decide
  have taken : (Nat.toDigits 10 n ++ rest).takeWhile Char.isDigit = Nat.toDigits 10 n := by
    rw [List.takeWhile_append_of_pos isDigit_of_mem_toDigits]
    cases rest with
    | nil => simp
    | cons c rest => simp [no_digit c rfl]
  have left : (Nat.toDigits 10 n ++ rest).dropWhile Char.isDigit = rest := by
    rw [List.dropWhile_append_of_pos isDigit_of_mem_toDigits]
    cases rest with
    | nil => rfl
    | cons c rest => simp [no_digit c rfl]
  have ended := admitted.endNumber_eq rest
  rw [← readFraction_of_isBehind behind] at ended
  rw [readNumber]
  simp only [taken, left]
  split
  · next none_there => exact absurd none_there Nat.toDigits_ne_nil
  · next digits => exact nomatch eq_nil_of_toDigits_eq_zero_cons n digits
  · simpa using ended

/-! ## White space

A new line and its indentation are passed over, and a value is never begun by white space.  The
reader thus comes to the first character of a value without having taken any of it. -/

/-- The text begins as a value does. -/
def Begins (cs : List Char) : Prop :=
  ∃ c tail, cs = c :: tail ∧ c ∉ [' ', '\n', '\t', '\r', ',', ']', '\x7d']

theorem Begins.skipSpace_eq (begins : Begins cs) : skipSpace cs = cs := by
  obtain ⟨c, tail, rfl, other⟩ := begins
  simp only [List.mem_cons, not_or] at other
  rw [skipSpace, List.dropWhile_cons_of_neg]
  simp [other]

theorem Begins.append (begins : Begins cs) (rest : List Char) : Begins (cs ++ rest) := by
  obtain ⟨c, tail, rfl, other⟩ := begins
  exact ⟨c, tail ++ rest, rfl, other⟩

theorem skipSpace_newLine (depth : Nat) (cs : List Char) :
    skipSpace (newLine depth ++ cs) = skipSpace cs := by
  refine List.dropWhile_append_of_pos fun c mem => ?_
  rcases List.mem_cons.mp mem with rfl | mem
  · decide
  · obtain rfl := List.eq_of_mem_replicate mem
    decide

/-! ## Elements

The loop over elements has a turn for the end of the array, one for the first element and one for
each after it, which takes a comma first.  Given that its elements are read back one by one, an
array is read back by induction on the list of them. -/

/-- What was printed of a value is read as the value, whatever stands behind it.  An array that has
just been opened could be closed at once, so it matters that no value begins as a bracket closes. -/
structure ReadsBack (reader : List Char → Except JsonError (JsonValue × List Char))
    (bound indent : Nat) (v : JsonValue) : Prop where
  begins : Begins (write indent v)
  reads : ∀ rest, IsBehind rest → (write indent v ++ rest).length < bound →
    reader (write indent v ++ rest) = .ok (v, rest)

variable {element value : List Char → Except JsonError (JsonValue × List Char)}

theorem readElements_close (first : Bool) (rest : List Char) (fuel : Nat) :
    readElements element first (newLine outer ++ ']' :: rest) (fuel + 1) = .ok ([], rest) := by
  rw [readElements, skipSpace_newLine]
  rfl

theorem readElements_first (begins : Begins cs) (read : element cs = .ok (v, cs')) (fuel : Nat) :
    readElements element true (newLine indent ++ cs) (fuel + 1) =
      (readElements element false cs' fuel).map fun (vs, rest) => (v :: vs, rest) := by
  have skipped := begins.skipSpace_eq
  obtain ⟨c, tail, rfl, other⟩ := begins
  simp only [List.mem_cons, not_or] at other
  rw [readElements, skipSpace_newLine, skipped]
  simp [other, read, bind, Except.bind, Except.map, pure, Except.pure]

theorem readElements_next (begins : Begins cs) (read : element cs = .ok (v, cs')) (fuel : Nat) :
    readElements element false (',' :: (newLine indent ++ cs)) (fuel + 1) =
      (readElements element false cs' fuel).map fun (vs, rest) => (v :: vs, rest) := by
  have skipped := begins.skipSpace_eq
  obtain ⟨c, tail, rfl, other⟩ := begins
  simp only [List.mem_cons, not_or] at other
  have comma : skipSpace (',' :: (newLine indent ++ c :: tail)) =
      ',' :: (newLine indent ++ c :: tail) := rfl
  rw [readElements, comma]
  simp [skipSpace_newLine, skipped, other, read, bind, Except.bind, Except.map, pure, Except.pure]

theorem isBehind_writeElements (indent outer : Nat) (vs : List JsonValue) (rest : List Char) :
    IsBehind (writeElements indent vs ++ (newLine outer ++ rest)) := by
  cases vs with
  | nil => exact isBehind_newLine outer rest
  | cons v vs => exact isBehind_comma _

/-- The elements after the first are read back.  A turn takes at least the comma before its element,
so there is fuel left for the next one. -/
theorem readElements_writeElements (each : ∀ v ∈ vs, ReadsBack element bound indent v)
    (enough : (writeElements indent vs ++ (newLine outer ++ ']' :: rest)).length < fuel)
    (within : fuel ≤ bound) :
    readElements element false (writeElements indent vs ++ (newLine outer ++ ']' :: rest)) fuel =
      .ok (vs, rest) := by
  induction vs generalizing fuel with
  | nil =>
      cases fuel with
      | zero => omega
      | succ fuel => exact readElements_close false rest fuel
  | cons v vs ih =>
      rw [List.forall_mem_cons] at each
      simp only [writeElements, List.cons_append, List.append_assoc, List.length_cons,
        List.length_append] at enough ⊢
      cases fuel with
      | zero => omega
      | succ fuel =>
          have read := each.1.reads _ (isBehind_writeElements indent outer vs (']' :: rest)) (by
            simp only [List.length_append, List.length_cons]
            omega)
          rw [readElements_next (each.1.begins.append _) read, ih each.2 _ (by omega)]
          · rfl
          · simp only [List.length_append, List.length_cons]
            omega

theorem readValue_array (bound depth : Nat) (cs : List Char) :
    readValue limits bound (depth + 1) ('[' :: cs) =
      (readElements (readValue limits bound depth) true cs bound).map
        fun (vs, rest) => (.array vs, rest) := by
  rw [readValue]
  rfl

theorem readsBack_array (each : ∀ v ∈ vs, ReadsBack (readValue limits bound depth) bound
    (indent + 1) v) : ReadsBack (readValue limits bound (depth + 1)) bound indent (.array vs) := by
  cases vs with
  | nil =>
      refine ⟨⟨_, _, rfl, by decide⟩, fun rest _ enough => ?_⟩
      cases bound with
      | zero => omega
      | succ bound => rfl
  | cons v vs =>
      rw [List.forall_mem_cons] at each
      refine ⟨⟨_, _, rfl, by decide⟩, fun rest _ enough => ?_⟩
      simp only [write, List.cons_append, List.append_assoc, List.nil_append, List.length_cons,
        List.length_append] at enough ⊢
      cases bound with
      | zero => omega
      | succ bound =>
          have read := each.1.reads _ (isBehind_writeElements (indent + 1) indent vs (']' :: rest))
            (by
              simp only [List.length_append, List.length_cons]
              omega)
          rw [readValue_array, readElements_first (each.1.begins.append _) read,
            readElements_writeElements each.2 _ (Nat.le_succ bound)]
          · rfl
          · simp only [List.length_append, List.length_cons]
            omega

/-! ## Members

As for elements, with a name and a colon before each value.  Names are strings like any other; the
blank behind the colon is passed over by the reader of the value. -/

theorem readMembers_close (first : Bool) (rest : List Char) (fuel : Nat) :
    readMembers value first (newLine outer ++ '\x7d' :: rest) (fuel + 1) = .ok ([], rest) := by
  rw [readMembers, skipSpace_newLine]
  rfl

theorem readString_quoted (text : List Char) (enough : (quoted text ++ rest).length ≤ fuel + 1) :
    readString [] (text.flatMap escapedChar ++ '"' :: rest) fuel = .ok (text, rest) := by
  refine readString_flatMap_escapedChar text [] rest ?_
  simp only [quoted, List.cons_append, List.append_assoc, List.length_cons, List.length_append,
    List.length_nil] at enough ⊢
  omega

theorem skipSpace_quoted (indent : Nat) (text rest : List Char) :
    skipSpace (newLine indent ++ (quoted text ++ rest)) =
      '"' :: (text.flatMap escapedChar ++ '"' :: rest) := by
  rw [skipSpace_newLine]
  simp [quoted, skipSpace]

theorem readColon_colon (cs : List Char) : readColon (':' :: cs) = .ok cs := rfl

theorem readMembers_first (key : List Char) (read : value (' ' :: cs) = .ok (v, cs'))
    (enough : (quoted key ++ ':' :: ' ' :: cs).length ≤ fuel + 1) :
    readMembers value true (newLine indent ++ (quoted key ++ ':' :: ' ' :: cs)) (fuel + 1) =
      (readMembers value false cs' fuel).map fun (ms, rest) => ((key, v) :: ms, rest) := by
  have key_read := readString_quoted key (Nat.le_succ_of_le enough)
  rw [readMembers, skipSpace_quoted]
  simp [key_read, read, readColon_colon, bind, Except.bind, Except.map, pure, Except.pure]

theorem readMembers_next (key : List Char) (read : value (' ' :: cs) = .ok (v, cs'))
    (enough : (quoted key ++ ':' :: ' ' :: cs).length ≤ fuel + 1) :
    readMembers value false (',' :: (newLine indent ++ (quoted key ++ ':' :: ' ' :: cs)))
        (fuel + 1) =
      (readMembers value false cs' fuel).map fun (ms, rest) => ((key, v) :: ms, rest) := by
  have key_read := readString_quoted key (Nat.le_succ_of_le enough)
  have comma : skipSpace (',' :: (newLine indent ++ (quoted key ++ ':' :: ' ' :: cs))) =
      ',' :: (newLine indent ++ (quoted key ++ ':' :: ' ' :: cs)) := rfl
  rw [readMembers, comma]
  simp [skipSpace_quoted, key_read, read, readColon_colon, bind, Except.bind, Except.map, pure,
    Except.pure]

theorem isBehind_writeMembers (indent outer : Nat) (ms : List (List Char × JsonValue))
    (rest : List Char) : IsBehind (writeMembers indent ms ++ (newLine outer ++ rest)) := by
  cases ms with
  | nil => exact isBehind_newLine outer rest
  | cons m ms => exact isBehind_comma _

/-- The members after the first are read back, by a reader of values that passes over the blank
behind the colon. -/
theorem readMembers_writeMembers {ms : List (List Char × JsonValue)}
    (blank : ∀ cs, value (' ' :: cs) = value cs)
    (each : ∀ m ∈ ms, ReadsBack value bound indent m.2)
    (enough : (writeMembers indent ms ++ (newLine outer ++ '\x7d' :: rest)).length < fuel)
    (within : fuel ≤ bound) :
    readMembers value false (writeMembers indent ms ++ (newLine outer ++ '\x7d' :: rest)) fuel =
      .ok (ms, rest) := by
  -- A turn takes at least the comma before its member, so there is fuel left for the next one.
  induction ms generalizing fuel with
  | nil =>
      cases fuel with
      | zero => omega
      | succ fuel => exact readMembers_close false rest fuel
  | cons m ms ih =>
      obtain ⟨key, v⟩ := m
      rw [List.forall_mem_cons] at each
      simp only [writeMembers, writeMember, List.cons_append, List.append_assoc, List.length_cons,
        List.length_append, List.nil_append] at enough ⊢
      cases fuel with
      | zero => omega
      | succ fuel =>
          have read := (blank _).trans (each.1.reads _
            (isBehind_writeMembers indent outer ms ('\x7d' :: rest)) (by
              simp only [List.length_append, List.length_cons]
              omega))
          rw [readMembers_next key read, ih each.2 _ (by omega)]
          · rfl
          · simp only [List.length_append, List.length_cons]
            omega
          · simp only [List.length_append, List.length_cons]
            omega

theorem readValue_object (bound depth : Nat) (cs : List Char) :
    readValue limits bound (depth + 1) ('\x7b' :: cs) =
      (readMembers (readValue limits bound depth) true cs bound).map
        fun (ms, rest) => (.object ms, rest) := by
  rw [readValue]
  rfl

theorem readValue_blank (bound depth : Nat) (cs : List Char) :
    readValue limits bound depth (' ' :: cs) = readValue limits bound depth cs := by
  rw [readValue.eq_def, readValue.eq_def]
  rfl

theorem readsBack_object {ms : List (List Char × JsonValue)}
    (each : ∀ m ∈ ms, ReadsBack (readValue limits bound depth) bound (indent + 1) m.2) :
    ReadsBack (readValue limits bound (depth + 1)) bound indent (.object ms) := by
  cases ms with
  | nil =>
      refine ⟨⟨_, _, rfl, by decide⟩, fun rest _ enough => ?_⟩
      cases bound with
      | zero => omega
      | succ bound => rfl
  | cons m ms =>
      obtain ⟨key, v⟩ := m
      rw [List.forall_mem_cons] at each
      refine ⟨⟨_, _, rfl, by decide⟩, fun rest _ enough => ?_⟩
      simp only [write, writeMember, List.cons_append, List.append_assoc, List.nil_append,
        List.length_cons, List.length_append] at enough ⊢
      cases bound with
      | zero => omega
      | succ bound =>
          have read := (readValue_blank _ _ _).trans (each.1.reads _
            (isBehind_writeMembers (indent + 1) indent ms ('\x7d' :: rest)) (by
              simp only [List.length_append, List.length_cons]
              omega))
          rw [readValue_object, readMembers_first key read,
            readMembers_writeMembers (readValue_blank _ _) each.2 _ (Nat.le_succ bound)]
          · rfl
          · simp only [List.length_append, List.length_cons]
            omega
          · simp only [List.length_append, List.length_cons]
            omega

/-! ## Values

The induction over a document.  Words, numbers and strings are read back as they stand, and arrays
and objects from their parts, one level of nesting below. -/

/-- The value nests brackets at most `depth` deep, and its numbers are natural numbers that the
reader takes. -/
inductive Readable (limits : JsonLimits) : Nat → JsonValue → Prop
  | null {depth : Nat} : Readable limits depth .null
  | bool {depth : Nat} (b : Bool) : Readable limits depth (.bool b)
  | number {depth n : Nat} : Admits limits n → Readable limits depth (.ofNat n)
  | string {depth : Nat} (text : List Char) : Readable limits depth (.string text)
  | array {depth : Nat} {vs : List JsonValue} :
      (∀ v ∈ vs, Readable limits depth v) → Readable limits (depth + 1) (.array vs)
  | object {depth : Nat} {ms : List (List Char × JsonValue)} :
      (∀ m ∈ ms, Readable limits depth m.2) → Readable limits (depth + 1) (.object ms)

theorem readsBack_word (v : JsonValue) (word : v = .null ∨ v = .bool true ∨ v = .bool false) :
    ReadsBack (readValue limits bound depth) bound indent v := by
  rcases word with rfl | rfl | rfl <;>
    exact ⟨⟨_, _, rfl, by decide⟩, fun rest _ _ => by rw [readValue.eq_def]; rfl⟩

theorem readsBack_string (text : List Char) :
    ReadsBack (readValue limits bound depth) bound indent (.string text) := by
  refine ⟨⟨_, _, rfl, by decide⟩, fun rest _ enough => ?_⟩
  have read := readString_quoted text (Nat.le_succ_of_le (Nat.le_of_lt enough))
  have begins : write indent (.string text) ++ rest =
      '"' :: (text.flatMap escapedChar ++ '"' :: rest) := by
    simp [write, quoted]
  rw [begins, readValue.eq_def]
  simp [skipSpace, read, bind, Except.bind, pure, Except.pure]

theorem not_mem_of_isDigit {c : Char} (digit : c.isDigit = true) {signs : List Char}
    (no_digits : signs.all (!·.isDigit) = true) : c ∉ signs := by
  intro mem
  have no_digit := List.all_eq_true.mp no_digits c mem
  simp [digit] at no_digit

theorem readValue_of_isDigit {c : Char} (digit : c.isDigit = true) (cs : List Char) :
    readValue limits bound depth (c :: cs) = readNumber limits [] (c :: cs) := by
  have other : c ∉ [' ', '\n', '\t', '\r', 'n', 't', 'f', '-', '"', '[', '\x7b'] :=
    not_mem_of_isDigit digit (by decide)
  simp only [List.mem_cons, not_or] at other
  rw [readValue.eq_def]
  simp [skipSpace, other, digit]

theorem readsBack_number {n : Nat} (admitted : Admits limits n) :
    ReadsBack (readValue limits bound depth) bound indent (.ofNat n) := by
  have nonempty : Nat.toDigits 10 n ≠ [] := Nat.toDigits_ne_nil
  obtain ⟨c, ds, digits⟩ := List.exists_cons_of_ne_nil nonempty
  have digit : c.isDigit = true := isDigit_of_mem_toDigits c (digits ▸ List.mem_cons_self)
  have begins : Begins (write indent (.ofNat n)) :=
    ⟨c, ds, digits, not_mem_of_isDigit digit (by decide)⟩
  refine ⟨begins, fun rest behind _ => ?_⟩
  rw [← readNumber_toDigits admitted behind, ofNat, write, digits, List.cons_append]
  exact readValue_of_isDigit digit _

/-- A reader that goes deep enough reads the value back at every indentation.  The induction is on
the nesting of brackets; the loops over elements and members have their own. -/
theorem Readable.readsBack (readable : Readable limits depth v) (bound indent : Nat) :
    ReadsBack (readValue limits bound depth) bound indent v := by
  induction readable generalizing indent with
  | null => exact readsBack_word _ (.inl rfl)
  | bool b =>
      cases b with
      | false => exact readsBack_word _ (.inr (.inr rfl))
      | true => exact readsBack_word _ (.inr (.inl rfl))
  | number admitted => exact readsBack_number admitted
  | string text => exact readsBack_string text
  | array _ ih => exact readsBack_array fun v mem => ih v mem (indent + 1)
  | object _ ih => exact readsBack_object fun m mem => ih m mem (indent + 1)

/-- A printed document is read back. -/
theorem readWithin_pretty (readable : Readable limits limits.depth v) :
    readWithin limits v.pretty.toList = .ok v := by
  have read := (readable.readsBack ((write 0 v).length + 1) 0).reads [] isBehind_nil (by simp)
  rw [List.append_nil] at read
  simp [readWithin, pretty, read, bind, Except.bind, pure, Except.pure, skipSpace]

end VersionStamp.JsonValue
