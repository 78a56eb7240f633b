import WalletCore.Json.Record
import WalletCore.Proofs.Json.Storable

/-! # Values are read as they were written

A text restores a value for a reader if the reader takes exactly this text and returns the value,
whatever blanks stand in front and whatever follows it. Scalars are restored from their written
form, and an array or object from the brackets around what restores its parts. So every value that
can be stored is read again from what is written of it, in any layout that adds only blanks.
-/
namespace WalletCore.Json

variable {α : Type}

/-- Whether a text is made of blanks. -/
def Blank (text : List Char) : Prop := ∀ char ∈ text, isBlank char = true

/-- Whether a layout adds blanks only. -/
structure Layout.Plain (layout : Layout) : Prop where
  /-- A line begins with blanks. -/
  lineBreak : ∀ depth, Blank (layout.lineBreak depth)
  /-- Blanks stand behind a colon. -/
  colon : ∃ blanks, Blank blanks ∧ layout.colon = ':' :: blanks

/-- The layout on one line adds nothing. -/
theorem Layout.plain_compact : Layout.compact.Plain :=
  ⟨fun _ => List.forall_mem_nil _, [], List.forall_mem_nil _, rfl⟩

/-- The layout with one item a line adds line breaks and blanks. -/
theorem Layout.plain_pretty : Layout.pretty.Plain := by
  refine ⟨fun depth => List.forall_mem_cons.2 ⟨rfl, ?_⟩, [' '], ?_, rfl⟩
  · intro char member
    rw [List.eq_of_mem_replicate member]
    rfl
  · exact List.forall_mem_singleton.2 rfl

/-- Blanks in front of a text are skipped. -/
theorem skipBlanks_append {blanks : List Char} (blank : Blank blanks) (text : List Char) :
    skipBlanks (blanks ++ text) = skipBlanks text :=
  List.dropWhile_append_of_pos blank

/-- Nothing is skipped in front of a character that is no blank. -/
theorem skipBlanks_cons {char : Char} (solid : isBlank char = false) (rest : List Char) :
    skipBlanks (char :: rest) = char :: rest := by
  simp [skipBlanks, solid]

/-- No blanks are left to skip after they were skipped. -/
theorem skipBlanks_skipBlanks (text : List Char) :
    skipBlanks (skipBlanks text) = skipBlanks text := by
  induction text with
  | nil => rfl
  | cons char rest ih =>
    by_cases blank : isBlank char = true
    · simpa [skipBlanks, blank] using ih
    · simp [skipBlanks, blank]

/-- Blanks go on with no number. -/
theorem Delimited.append {blanks rest : List Char} (blank : Blank blanks)
    (delimited : Delimited rest) : Delimited (blanks ++ rest) := by
  cases blanks with
  | nil => exact delimited
  | cons char blanks =>
    intro first same
    cases same
    have found : isBlank char = true := blank char List.mem_cons_self
    simp only [isBlank, Bool.or_eq_true, decide_eq_true_eq] at found
    rcases found with ((rfl | rfl) | rfl) | rfl <;> decide

/-- Whether a text begins with a character that is neither a blank nor the end of an array. -/
def Solid (text : List Char) : Prop :=
  ∃ char rest, text = char :: rest ∧ isBlank char = false ∧ char ≠ ']'

/-- What follows a solid text does not matter. -/
theorem Solid.append {text : List Char} (solid : Solid text) (rest : List Char) :
    Solid (text ++ rest) := by
  obtain ⟨char, others, rfl, noBlank, noEnd⟩ := solid
  exact ⟨char, others ++ rest, rfl, noBlank, noEnd⟩

/-- Whether a reader takes exactly a text, after any blanks and whatever follows, and returns a
value. -/
structure Restores (reader : Reader α) (text : List Char) (value : α) : Prop where
  /-- The text does not begin with a blank and does not look like the end of an array. -/
  solid : Solid text
  /-- The text is read as the value. -/
  read : ∀ {blanks rest : List Char}, Blank blanks → Delimited rest →
    reader (blanks ++ text ++ rest) = .ok (value, rest)

/-! ## Scalars -/

/-- Blanks in front of a value do not matter. -/
theorem readWithin_append (length : Nat) (inner : Option (Reader Json)) {blanks : List Char}
    (blank : Blank blanks) (text : List Char) :
    readWithin length inner (blanks ++ text) = readWithin length inner text := by
  unfold readWithin
  rw [skipBlanks_append blank]

/-- A value is restored if it is read without blanks in front. -/
theorem Restores.of_readWithin {length : Nat} {inner : Option (Reader Json)} {text : List Char}
    {value : Json} (solid : Solid text)
    (read : ∀ {rest : List Char}, Delimited rest →
      readWithin length inner (text ++ rest) = .ok (value, rest)) :
    Restores (readWithin length inner) text value := by
  refine ⟨solid, fun {blanks rest} blank delimited => ?_⟩
  rw [List.append_assoc, readWithin_append length inner blank]
  exact read delimited

/-- The null value is restored. -/
theorem restores_null (length : Nat) (inner : Option (Reader Json)) (layout : Layout)
    (indent : Nat) : Restores (readWithin length inner) (write layout indent .null) .null :=
  .of_readWithin ⟨_, _, rfl, rfl, by decide⟩ fun _ => rfl

/-- A truth value is restored. -/
theorem restores_bool (length : Nat) (inner : Option (Reader Json)) (layout : Layout)
    (indent : Nat) (value : Bool) :
    Restores (readWithin length inner) (write layout indent (.bool value)) (.bool value) := by
  cases value with
  | false => exact .of_readWithin ⟨_, _, rfl, rfl, by decide⟩ fun _ => rfl
  | true => exact .of_readWithin ⟨_, _, rfl, rfl, by decide⟩ fun _ => rfl

/-- A number is restored. -/
theorem restores_number (length : Nat) (inner : Option (Reader Json)) {number : Number}
    (whole : number.Whole) :
    Restores (readWithin length inner) number.text (.number number) := by
  obtain ⟨char, others, text, front⟩ := text_front whole
  have apart : ∀ other, isDigit other = false → other ≠ '-' → char ≠ other := by
    rintro other noDigit noSign rfl
    rcases front with sign | digit
    · exact noSign sign
    · rw [noDigit] at digit
      contradiction
  have noBlank : isBlank char = false := by
    simp only [isBlank, Bool.or_eq_false_iff, decide_eq_false_iff_not]
    exact ⟨⟨⟨apart _ rfl (by decide), apart _ rfl (by decide)⟩, apart _ rfl (by decide)⟩,
      apart _ rfl (by decide)⟩
  have solid : Solid number.text := ⟨char, others, text, noBlank, apart _ rfl (by decide)⟩
  refine .of_readWithin solid fun {rest} after => ?_
  have read := readNumber_text whole after
  rw [text, List.cons_append] at read ⊢
  rw [readWithin, skipBlanks_cons noBlank]
  simp only [apart 'n' rfl (by decide), apart 't' rfl (by decide), apart 'f' rfl (by decide),
    apart '"' rfl (by decide), front, ↓reduceIte, read]
  rfl

/-- A string is restored. -/
theorem restores_string {length : Nat} (inner : Option (Reader Json)) {text : String}
    (enough : text.toList.length < length) :
    Restores (readWithin length inner) (writeString text) (.string text) := by
  refine .of_readWithin ⟨'"', _, rfl, rfl, by decide⟩ fun {rest} _ => ?_
  have read := readString_escape enough rest
  simp only [writeString, List.cons_append, List.append_assoc, List.nil_append]
  rw [readWithin, skipBlanks_cons rfl]
  simp only [read, ↓reduceIte, Char.reduceEq]
  rfl

/-! ## Brackets -/

/-- What stands in front of a part: a comma, except for the first one, and a line break. -/
def Layout.before (layout : Layout) (indent : Nat) (first : Bool) : List Char :=
  (if first then [] else [',']) ++ layout.lineBreak indent

/-- Parts, with what stands in front of each of them. -/
def Layout.parts (layout : Layout) (indent : Nat) : Bool → List (List Char) → List Char
  | _, [] => []
  | first, part :: others => layout.before indent first ++ part ++ layout.parts indent false others

/-- Brackets stand around the parts, with blanks behind the last one. -/
theorem Layout.enclose_eq {layout : Layout} (plain : layout.Plain) (indent : Nat)
    (opening closing : Char) (parts : List (List Char)) :
    ∃ ending, Blank ending ∧ layout.enclose indent opening closing parts =
      opening :: (layout.parts (indent + 1) true parts ++ (ending ++ [closing])) := by
  have later : ∀ others, layout.parts (indent + 1) false others =
      others.flatMap fun part => ',' :: layout.lineBreak (indent + 1) ++ part := by
    intro others
    induction others with
    | nil => rfl
    | cons part others ih => simp [Layout.parts, Layout.before, ih]
  cases parts with
  | nil => exact ⟨[], List.forall_mem_nil _, rfl⟩
  | cons first others =>
    refine ⟨layout.lineBreak indent, plain.lineBreak indent, ?_⟩
    simp [Layout.enclose, Layout.parts, Layout.before, later]

/-- A text that begins with the end of a bracket goes on with no number. -/
theorem delimited_closing {closing : Char} (closes : closing = ']' ∨ closing = '\x7d')
    (rest : List Char) : Delimited (closing :: rest) := by
  intro char same
  cases same
  rcases closes with rfl | rfl <;> decide

/-- Behind a part the number in it does not go on. -/
theorem Layout.delimited_parts (layout : Layout) (indent : Nat) (parts : List (List Char))
    {rest : List Char} (delimited : Delimited rest) :
    Delimited (layout.parts indent false parts ++ rest) := by
  cases parts with
  | nil => exact delimited
  | cons part others =>
    intro char same
    cases same
    decide

/-- The next item of an array is found where it begins. -/
theorem nextItem_before {layout : Layout} (plain : layout.Plain) (indent : Nat) (first : Bool)
    {text : List Char} (solid : Solid text) :
    nextItem first (layout.before indent first ++ text) = .ok (some text) := by
  obtain ⟨char, rest, rfl, noBlank, noEnd⟩ := solid
  have skipped : skipBlanks (layout.lineBreak indent ++ char :: rest) = char :: rest := by
    rw [skipBlanks_append (plain.lineBreak indent), skipBlanks_cons noBlank]
  cases first with
  | true => simp [nextItem, Layout.before, skipped, noEnd]
  | false =>
    have comma : skipBlanks (',' :: (layout.lineBreak indent ++ char :: rest)) =
        ',' :: (layout.lineBreak indent ++ char :: rest) := skipBlanks_cons rfl _
    simp [nextItem, Layout.before, comma, skipped, noEnd]

/-- The end of an array is found behind its items. -/
theorem nextItem_ending (first : Bool) {ending : List Char} (blank : Blank ending)
    (rest : List Char) :
    nextItem first (ending ++ ']' :: rest) = .ok none ∧
      closeArray (ending ++ ']' :: rest) = .ok rest := by
  unfold nextItem closeArray
  rw [skipBlanks_append blank, skipBlanks_cons rfl]
  exact ⟨rfl, rfl⟩

/-- The end of an object is found behind its members. -/
theorem nextMember_ending (first : Bool) {ending : List Char} (blank : Blank ending)
    (rest : List Char) :
    nextMember first (ending ++ '\x7d' :: rest) = .ok none ∧
      closeObject (ending ++ '\x7d' :: rest) = .ok rest := by
  unfold nextMember closeObject
  rw [skipBlanks_append blank, skipBlanks_cons rfl]
  exact ⟨rfl, rfl⟩

/-- The items of an array are read as what their texts restore. -/
theorem readItems_parts {layout : Layout} (plain : layout.Plain) (indent : Nat)
    {reader : Reader α} {written : α → List Char} {values : List α}
    (restores : ∀ value ∈ values, Restores reader (written value) value) {length : Nat}
    (enough : values.length < length) (first : Bool) {ending : List Char} (blank : Blank ending)
    (rest : List Char) :
    readItems reader length first
        (layout.parts indent first (values.map written) ++ (ending ++ ']' :: rest)) =
      .ok (values, rest) := by
  -- Only the first item has no comma before it, so the flag changes on the way.
  induction values generalizing length first with
  | nil =>
    obtain ⟨length, rfl⟩ := Nat.exists_eq_add_of_lt enough
    obtain ⟨last, closed⟩ := nextItem_ending first blank rest
    simp [readItems, Layout.parts, last, closed, ok_bind]
  | cons value values ih =>
    cases length with
    | zero => exact absurd enough (Nat.not_lt_zero _)
    | succ length =>
      have fewer : values.length < length := Nat.lt_of_succ_lt_succ enough
      obtain ⟨here, later⟩ := List.forall_mem_cons.1 restores
      have others := ih later fewer false
      have after : Delimited (layout.parts indent false (values.map written) ++
          (ending ++ ']' :: rest)) :=
        layout.delimited_parts indent _ (.append blank (delimited_closing (.inl rfl) rest))
      have next := nextItem_before plain indent first (here.solid.append
        (layout.parts indent false (values.map written) ++ (ending ++ ']' :: rest)))
      have read := here.read (List.forall_mem_nil _) after
      rw [List.nil_append] at read
      simp only [List.map_cons, Layout.parts, List.append_assoc] at next read others ⊢
      simp only [readItems, next, ok_bind, read, others]

/-- The written form of a member: its name, a colon and the text of its value. -/
def Layout.member (layout : Layout) (name : String) (text : List Char) : List Char :=
  writeString name ++ layout.colon ++ text

/-- A member is read step by step: its quote, its name, its colon and its value. -/
theorem Restores.member {layout : Layout} (plain : layout.Plain) (indent : Nat) (first : Bool)
    {reader : Reader α} {name : String} {text rest : List Char} {value : α} {nameLength : Nat}
    (enough : name.toList.length < nameLength) (restores : Restores reader text value)
    (delimited : Delimited rest) :
    ∃ inName behindName inValue,
      nextMember first (layout.before indent first ++ layout.member name text ++ rest) =
          .ok (some inName) ∧
        readString nameLength inName = .ok (name, behindName) ∧
        readColon behindName = .ok inValue ∧ reader inValue = .ok (value, rest) := by
  obtain ⟨blanks, blank, colon⟩ := plain.colon
  let inName := name.toList.flatMap escape ++ '"' :: (layout.colon ++ (text ++ rest))
  have quoted : layout.before indent first ++ layout.member name text ++ rest =
      layout.before indent first ++ '"' :: inName := by
    simp [Layout.member, writeString, inName]
  have skipped : skipBlanks (layout.lineBreak indent ++ '"' :: inName) = '"' :: inName := by
    rw [skipBlanks_append (plain.lineBreak indent), skipBlanks_cons rfl]
  have begins : nextMember first (layout.before indent first ++ '"' :: inName) =
      .ok (some inName) := by
    cases first with
    | true => simp [nextMember, Layout.before, skipped]
    | false =>
      have comma : skipBlanks (',' :: (layout.lineBreak indent ++ '"' :: inName)) =
          ',' :: (layout.lineBreak indent ++ '"' :: inName) := skipBlanks_cons rfl _
      simp [nextMember, Layout.before, comma, skipped]
  have named : readString nameLength inName = .ok (name, layout.colon ++ (text ++ rest)) :=
    readString_escape enough _
  have parted : readColon (layout.colon ++ (text ++ rest)) = .ok (blanks ++ (text ++ rest)) := by
    rw [colon, readColon, List.cons_append, skipBlanks_cons rfl]
    rfl
  have found := restores.read blank delimited
  rw [List.append_assoc] at found
  exact ⟨_, _, _, quoted ▸ begins, named, parted, found⟩

/-- The members of an object are read as what their texts restore. -/
theorem readMembers_parts {layout : Layout} (plain : layout.Plain) (indent : Nat)
    {reader : Reader α} {written : α → List Char} {members : List (String × α)}
    (restores : ∀ member ∈ members, Restores reader (written member.2) member.2)
    {nameLength length : Nat}
    (names : ∀ member ∈ members, member.1.toList.length < nameLength)
    (enough : members.length < length) (first : Bool) {ending : List Char} (blank : Blank ending)
    (rest : List Char) :
    readMembers reader nameLength length first
        (layout.parts indent first
          (members.map fun member => layout.member member.1 (written member.2)) ++
          (ending ++ '\x7d' :: rest)) =
      .ok (members, rest) := by
  induction members generalizing length first with
  | nil =>
    obtain ⟨length, rfl⟩ := Nat.exists_eq_add_of_lt enough
    obtain ⟨last, closed⟩ := nextMember_ending first blank rest
    simp [readMembers, Layout.parts, last, closed, ok_bind]
  | cons member members ih =>
    cases length with
    | zero => exact absurd enough (Nat.not_lt_zero _)
    | succ length =>
      have fewer : members.length < length := Nat.lt_of_succ_lt_succ enough
      obtain ⟨here, later⟩ := List.forall_mem_cons.1 restores
      obtain ⟨short, others⟩ := List.forall_mem_cons.1 names
      have after := layout.delimited_parts indent
        (members.map fun member => layout.member member.1 (written member.2))
        (.append blank (delimited_closing (.inr rfl) rest))
      obtain ⟨inName, behindName, inValue, begins, named, parted, found⟩ :=
        here.member plain indent first short after
      rw [List.map_cons, Layout.parts, List.append_assoc]
      simp only [readMembers, begins, named, parted, found, ok_bind, ih later others fewer false]

/-! ## Values -/

/-- The written items of an array, one by one. -/
theorem writeItems_eq (layout : Layout) (indent : Nat) (items : List Json) :
    writeItems layout indent items = items.map (write layout indent) := by
  induction items with
  | nil => rfl
  | cons item items ih => rw [writeItems, ih, List.map_cons]

/-- The written members of an object, one by one. -/
theorem writeMembers_eq (layout : Layout) (indent : Nat) (members : List (String × Json)) :
    writeMembers layout indent members =
      members.map fun member => layout.member member.1 (write layout indent member.2) := by
  induction members with
  | nil => rfl
  | cons member members ih => rw [writeMembers, ih, List.map_cons, Layout.member]

/-- No part is longer than all of them, and there are no more parts than characters, but for the
first part. -/
theorem Layout.length_parts (layout : Layout) (indent : Nat) (first : Bool)
    (parts : List (List Char)) :
    (∀ part ∈ parts, part.length ≤ (layout.parts indent first parts).length) ∧
      parts.length ≤ (layout.parts indent first parts).length + first.toNat := by
  induction parts generalizing first with
  | nil => exact ⟨List.forall_mem_nil _, Nat.zero_le _⟩
  | cons part others ih =>
    obtain ⟨later, fewer⟩ := ih false
    rw [Bool.toNat_false] at fewer
    have whole : (layout.parts indent first (part :: others)).length =
        (layout.before indent first).length + part.length +
          (layout.parts indent false others).length := by
      simp [Layout.parts, Nat.add_assoc]
    have comma : 1 ≤ (layout.before indent first).length + first.toNat := by
      cases first <;> simp [Layout.before]
    refine ⟨List.forall_mem_cons.2 ⟨?_, fun other member => ?_⟩, ?_⟩
    · omega
    · have shorter := later other member
      omega
    · rw [List.length_cons]
      omega

/-- Within brackets each part is shorter than the whole, and there are fewer parts than
characters. -/
theorem Layout.length_enclose {layout : Layout} (plain : layout.Plain) (indent : Nat)
    (opening closing : Char) (parts : List (List Char)) :
    (∀ part ∈ parts, part.length < (layout.enclose indent opening closing parts).length) ∧
      parts.length < (layout.enclose indent opening closing parts).length := by
  obtain ⟨ending, -, enclosed⟩ := Layout.enclose_eq plain indent opening closing parts
  obtain ⟨shorter, fewer⟩ := layout.length_parts (indent + 1) true parts
  rw [Bool.toNat_true] at fewer
  have whole : (layout.enclose indent opening closing parts).length =
      (layout.parts (indent + 1) true parts).length + ending.length + 2 := by
    rw [enclosed]
    simp [Nat.add_assoc]
  refine ⟨fun part member => ?_, ?_⟩
  · have short := shorter part member
    omega
  · omega

/-- A written string is longer than its text. -/
theorem length_writeString (text : String) : text.toList.length < (writeString text).length := by
  have characters : ∀ characters : List Char,
      characters.length ≤ (characters.flatMap escape).length := by
    intro characters
    induction characters with
    | nil => exact Nat.le_refl _
    | cons char characters ih =>
      have escaped : 1 ≤ (escape char).length := by
        unfold escape
        repeat' split
        all_goals simp
      rw [List.flatMap_cons, List.length_append, List.length_cons]
      omega
  have inside := characters text.toList
  rw [writeString, List.length_append, List.length_cons, List.length_singleton]
  omega

/-- The name and the text of a member are shorter than the member. -/
theorem Layout.length_member (layout : Layout) (name : String) (text : List Char) :
    name.toList.length < (layout.member name text).length ∧
      text.length < (layout.member name text).length := by
  have named := length_writeString name
  simp only [Layout.member, List.length_append]
  omega

/-- An array is restored from its items. -/
theorem restores_array {layout : Layout} (plain : layout.Plain) (indent : Nat) {length : Nat}
    {item : Reader Json} {items : List Json}
    (restores : ∀ value ∈ items, Restores item (write layout (indent + 1) value) value)
    (enough : items.length < length) :
    Restores (readWithin length (some item)) (write layout indent (.array items))
      (.array items) := by
  obtain ⟨ending, blank, enclosed⟩ := Layout.enclose_eq plain indent '[' ']'
    (writeItems layout (indent + 1) items)
  rw [write, enclosed, writeItems_eq]
  refine .of_readWithin ⟨'[', _, rfl, rfl, by decide⟩ fun {rest} _ => ?_
  have read := readItems_parts plain (indent + 1) restores enough true blank rest
  rw [List.cons_append, readWithin, skipBlanks_cons rfl]
  simp only [List.append_assoc, List.cons_append, List.nil_append, read]
  rfl

/-- An object is written as its members, one by one, between brackets. -/
theorem write_object {layout : Layout} (plain : layout.Plain) (indent : Nat)
    (members : List (String × Json)) :
    ∃ ending, Blank ending ∧ ∀ rest, write layout indent (.object members) ++ rest =
      '\x7b' :: (layout.parts (indent + 1) true (members.map fun member =>
        layout.member member.1 (write layout (indent + 1) member.2)) ++
          (ending ++ '\x7d' :: rest)) := by
  obtain ⟨ending, blank, enclosed⟩ := Layout.enclose_eq plain indent '\x7b' '\x7d'
    (writeMembers layout (indent + 1) members)
  refine ⟨ending, blank, fun rest => ?_⟩
  rw [write, enclosed, writeMembers_eq]
  simp only [List.cons_append, List.append_assoc, List.nil_append]

/-- A written object begins with its bracket. -/
theorem solid_object {layout : Layout} (plain : layout.Plain) (indent : Nat)
    (members : List (String × Json)) : Solid (write layout indent (.object members)) := by
  obtain ⟨ending, -, enclosed⟩ := write_object plain indent members
  have whole := enclosed []
  rw [List.append_nil] at whole
  exact ⟨'\x7b', _, whole, rfl, by decide⟩

/-- An object of distinct names is restored from its members. -/
theorem restores_object {layout : Layout} (plain : layout.Plain) (indent : Nat) {length : Nat}
    {value : Reader Json} {members : List (String × Json)}
    (distinct : (Entries.names members).Nodup)
    (restores : ∀ member ∈ members, Restores value (write layout (indent + 1) member.2) member.2)
    (names : ∀ member ∈ members, member.1.toList.length < length)
    (enough : members.length < length) :
    Restores (readWithin length (some value)) (write layout indent (.object members))
      (.object members) := by
  obtain ⟨ending, blank, enclosed⟩ := write_object plain indent members
  refine .of_readWithin (solid_object plain indent members) fun {rest} _ => ?_
  have read := readMembers_parts plain (indent + 1) restores names enough true blank rest
  have same : Json.ofMembers (Members.ofList members) = .object members := by
    rw [Json.ofMembers, Members.entries_ofList distinct]
  rw [enclosed, readWithin, skipBlanks_cons rfl]
  simp only [read]
  rw [← same]
  rfl

/-- An array is written longer than each of its items, and has fewer items than characters. -/
theorem length_write_array {layout : Layout} (plain : layout.Plain) (indent : Nat)
    (items : List Json) :
    let whole := (write layout indent (.array items)).length
    (∀ item ∈ items, (write layout (indent + 1) item).length < whole) ∧ items.length < whole := by
  intro whole
  obtain ⟨shorter, fewer⟩ := Layout.length_enclose plain indent '[' ']'
    (writeItems layout (indent + 1) items)
  rw [writeItems_eq] at shorter fewer
  rw [List.length_map] at fewer
  simp only [whole, write, writeItems_eq]
  exact ⟨fun item member => shorter _ (List.mem_map_of_mem member), fewer⟩

/-- An object is written longer than each of its names and values, and has fewer members than
characters. -/
theorem length_write_object {layout : Layout} (plain : layout.Plain) (indent : Nat)
    (members : List (String × Json)) :
    let whole := (write layout indent (.object members)).length
    (∀ member ∈ members, member.1.toList.length < whole ∧
      (write layout (indent + 1) member.2).length < whole) ∧ members.length < whole := by
  intro whole
  obtain ⟨shorter, fewer⟩ := Layout.length_enclose plain indent '\x7b' '\x7d'
    (writeMembers layout (indent + 1) members)
  rw [writeMembers_eq] at shorter fewer
  rw [List.length_map] at fewer
  simp only [whole, write, writeMembers_eq]
  refine ⟨fun member inside => ?_, fewer⟩
  have short := shorter _ (List.mem_map_of_mem inside)
  obtain ⟨name, value⟩ := layout.length_member member.1 (write layout (indent + 1) member.2)
  exact ⟨Nat.lt_trans name short, Nat.lt_trans value short⟩

/-- A value that can be stored is restored from its written form. -/
theorem restores_write {layout : Layout} (plain : layout.Plain) {depth : Nat} {value : Json}
    (storable : Storable depth value) (indent : Nat) {length : Nat}
    (enough : (write layout indent value).length < length) :
    Restores (readValue length depth) (write layout indent value) value := by
  -- The indentation grows towards the parts, while the length that bounds all loops stays.
  induction storable generalizing indent with
  | null depth => cases depth <;> exact restores_null length _ layout indent
  | bool depth value => cases depth <;> exact restores_bool length _ layout indent value
  | number depth whole => cases depth <;> exact restores_number length _ whole
  | string depth value =>
    have short := Nat.lt_trans (length_writeString value) enough
    cases depth <;> exact restores_string _ short
  | array inner ih =>
    obtain ⟨shorter, fewer⟩ := length_write_array plain indent _
    refine restores_array plain indent (fun item member => ?_) (Nat.lt_trans fewer enough)
    exact ih item member (indent + 1) (Nat.lt_trans (shorter item member) enough)
  | object distinct inner ih =>
    obtain ⟨shorter, fewer⟩ := length_write_object plain indent _
    refine restores_object plain indent distinct (fun entry member => ?_) (fun entry member => ?_)
      (Nat.lt_trans fewer enough)
    · exact ih entry member (indent + 1) (Nat.lt_trans (shorter entry member).2 enough)
    · exact Nat.lt_trans (shorter entry member).1 enough

/-- A text that is restored as a whole is read as the value. -/
theorem Restores.readAll {reader : Reader α} {text : List Char} {value : α}
    (restores : Restores reader text value) : Json.readAll reader text = .ok value := by
  have ending : Delimited [] := fun char absent => nomatch absent
  have read := restores.read (List.forall_mem_nil _) ending
  rw [List.nil_append, List.append_nil] at read
  rw [Json.readAll, read]
  rfl

/-- What is restored from a whole text is read from it. -/
theorem Restores.ofText {decoder : Decoder α} {text : List Char} {value : α}
    (restores : Restores (decoder.read (.ofText maxDepth text)) text value) :
    decoder.ofText (String.ofList text) = .ok value := by
  rw [Decoder.ofText, String.toList_ofList]
  exact restores.readAll

end WalletCore.Json
