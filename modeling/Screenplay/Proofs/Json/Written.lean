import Screenplay.Proofs.Json.Spelling
import Screenplay.Proofs.NameMap

/-!
# Written values are documents

A value without doubles can be written on one line or over several; either way it is a
document, and the tree of the document means the value.  Doubles are left out, since the
shortest decimal that is written for one of them may be read as its neighbour.

Reading is followed stretch by stretch: `Takes` says how some characters lead from one
condition of the tree builder to another.  A value leads from where it is awaited to where it
has been completed, in whatever arrays and objects it stands.
-/

namespace Screenplay.Json

/-! ## Meaning -/

/-- The tree of a document means a value.  Neither the escapes of its texts nor the digits of
its numbers matter, but the order of members does. -/
inductive Tree.Means : Tree → Json → Prop where
  | null : Means .null .null
  | bool (value : Bool) : Means (.bool value) (.bool value)
  | number {spelling : Spelling} {number : Number}
      (held : Number.ofSpelling? spelling = some number) : Means (.number spelling) (.number number)
  | text {pieces : List Piece} {text : String} (decoded : decodeText? pieces = some text) :
      Means (.text pieces) (.text text)
  | array {trees : List Tree} {items : List Json} (each : List.Forall₂ Means trees items) :
      Means (.array trees) (.array items)
  | object {written : List (List Piece × Tree)} {members : List (String × Json)}
      (names : List.Forall₂ (fun pieces name => decodeText? pieces = some name)
        (written.map Prod.fst) (members.map Prod.fst))
      (values : List.Forall₂ Means (written.map Prod.snd) (members.map Prod.snd)) :
      Means (.object written) (.object members)

/-- A value in which there is no double. -/
inductive Whole : Json → Prop where
  | null : Whole .null
  | bool (value : Bool) : Whole (.bool value)
  | number {number : Number} (isInteger : number.IsInteger) : Whole (.number number)
  | text (value : String) : Whole (.text value)
  | array {items : List Json} (each : ∀ item ∈ items, Whole item) : Whole (.array items)
  | object {members : List (String × Json)} (each : ∀ member ∈ members, Whole member.2) :
      Whole (.object members)

namespace Tree

open Builder (step complete)
open Token (Spells IsMark)

/-! ## Stretches of characters -/

variable {characters others : List Char} {before between after : Builder → Prop}
  {character : Char} {token : Token} {frames : List Frame} {tree : Tree}

/-- Reading some characters takes the builder from one condition to another. -/
def Takes (characters : List Char) (before after : Builder → Prop) : Prop :=
  ∃ tokens, Spells characters tokens ∧ ∀ builder, before builder →
    ∃ next, tokens.foldlM step builder = some next ∧ after next

/-- A single token takes the builder from one condition to another. -/
def Moves (token : Token) (before after : Builder → Prop) : Prop :=
  ∀ builder, before builder → ∃ next, step builder token = some next ∧ after next

theorem Moves.imp {later : Builder → Prop} (moves : Moves token before after)
    (weaker : ∀ builder, after builder → later builder) : Moves token before later := by
  intro builder holds
  obtain ⟨next, isNext, reached⟩ := moves builder holds
  exact ⟨next, isNext, weaker next reached⟩

theorem takes_nil (condition : Builder → Prop) : Takes [] condition condition :=
  ⟨[], Token.spells_nil, fun builder holds => ⟨builder, rfl, holds⟩⟩

theorem takes_of_word (each : ∀ character ∈ characters, isWordChar character = true)
    (meant : Token.ofWord? characters = some token) (nonempty : characters ≠ [])
    (moves : Moves token before after) : Takes characters before after := by
  refine ⟨[token], Token.spells_word each meant nonempty, fun builder holds => ?_⟩
  obtain ⟨next, isNext, reached⟩ := moves builder holds
  exact ⟨next, by rw [List.foldlM_cons, isNext]; rfl, reached⟩

/-- A token that shows its own end is read before whatever follows. -/
theorem Takes.cons {ended : List Char} (ends : Token.Scanner.Ends ended token)
    (moves : Moves token before between) (takes : Takes characters between after) :
    Takes (ended ++ characters) before after := by
  obtain ⟨tokens, spells, leads⟩ := takes
  refine ⟨token :: tokens, spells.after ends, fun builder holds => ?_⟩
  obtain ⟨next, isNext, reached⟩ := moves builder holds
  obtain ⟨last, isLast, arrived⟩ := leads next reached
  exact ⟨last, by rw [List.foldlM_cons, isNext, Option.bind_eq_bind, Option.bind_some, isLast],
    arrived⟩

theorem Takes.mark (isMark : IsMark character token) (moves : Moves token before between)
    (takes : Takes characters between after) : Takes (character :: characters) before after :=
  takes.cons isMark.ends moves

theorem Takes.spaces {spaces : List Char} (each : ∀ space ∈ spaces, isSpace space = true)
    (takes : Takes characters before after) : Takes (spaces ++ characters) before after := by
  induction spaces with
  | nil => exact takes
  | cons space rest ih =>
      rw [List.forall_mem_cons] at each
      obtain ⟨tokens, spells, leads⟩ := ih each.2
      exact ⟨tokens, spells.space each.1, leads⟩

theorem Takes.append (takes : Takes characters before between)
    (continues : Takes (character :: others) between after)
    (noWord : isWordChar character = false) :
    Takes (characters ++ character :: others) before after := by
  obtain ⟨tokens, spells, leads⟩ := takes
  obtain ⟨more, spellsMore, leadsOn⟩ := continues
  refine ⟨tokens ++ more, spells.append spellsMore noWord, fun builder holds => ?_⟩
  obtain ⟨next, isNext, reached⟩ := leads builder holds
  obtain ⟨last, isLast, arrived⟩ := leadsOn next reached
  exact ⟨last, by rw [List.foldlM_append, isNext, Option.bind_eq_bind, Option.bind_some, isLast],
    arrived⟩

/-- An ending that begins with white space or a mark can follow anything. -/
theorem Takes.close {spaces : List Char} (each : ∀ space ∈ spaces, isSpace space = true)
    (takes : Takes characters before between) (isMark : IsMark character token)
    (moves : Moves token between after) :
    Takes (characters ++ (spaces ++ [character])) before after := by
  have ending : Takes (spaces ++ [character]) between after :=
    ((takes_nil after).mark isMark moves).spaces each
  cases spaces with
  | nil => exact takes.append ending isMark.isWordChar_eq_false
  | cons space rest =>
      exact takes.append ending
        (Token.isWordChar_eq_false_of_isSpace (each space List.mem_cons_self))

/-! ## Arrays and objects -/

/-- A value is awaited that goes to the frame on top. -/
inductive AwaitsValue : List Frame → Builder → Prop where
  | value (frames : List Frame) : AwaitsValue frames (.expectValue frames)
  | item (frames : List Frame) : AwaitsValue (.array [] :: frames) (.expectItemOrEnd frames)

/-- The name of a member is awaited after others that have been read. -/
inductive AwaitsName (frames : List Frame) : List (List Piece × Tree) → Builder → Prop where
  | name (members : List (List Piece × Tree)) :
      AwaitsName frames members (.expectName frames members)
  | first : AwaitsName frames [] (.expectNameOrEnd frames)

/-- Some members have been read, the last one of them first. -/
inductive HasMembers (frames : List Frame) : List (List Piece × Tree) → Builder → Prop where
  | intro (members : List (List Piece × Tree)) (name : List Piece) :
      HasMembers frames members (.expectCommaOrEnd (.object members name) frames)

/-- Characters that are read as a tree, wherever a value is awaited. -/
def Writes (characters : List Char) (tree : Tree) : Prop :=
  ∀ frames, Takes characters (AwaitsValue frames) (· = complete tree frames)

/-- Characters that are read as a member, wherever a member is awaited. -/
def WritesMember (characters : List Char) (member : List Piece × Tree) : Prop :=
  ∀ frames members, Takes characters (AwaitsName frames members)
    (HasMembers frames (member :: members))

theorem moves_value (moved : ∀ frames, Builder.stepValue frames token = some (complete tree frames))
    (notEnd : token ≠ .endArray) : Moves token (AwaitsValue frames) (· = complete tree frames) := by
  intro builder awaits
  refine ⟨_, ?_, rfl⟩
  cases awaits with
  | value => exact moved frames
  | item =>
      rw [step]
      · exact moved _
      · exact notEnd

/-- How the parts of an array or object are read between its marks: `awaits` and `has` tell
what holds in front of a part and after it, when some parts have been read. -/
structure Encloses {α : Type} (opening closing : Token) (frames : List Frame)
    (whole : List α → Tree) (awaits has : List α → Builder → Prop) : Prop where
  opens : Moves opening (AwaitsValue frames) fun next =>
    awaits [] next ∧ step next closing = some (complete (whole []) frames)
  comma : ∀ read, Moves .comma (has read) (awaits read)
  closes : ∀ read, Moves closing (has read) (· = complete (whole read.reverse) frames)

theorem encloses_array (frames : List Frame) :
    Encloses .beginArray .endArray frames .array
      (fun read => AwaitsValue (.array read :: frames))
      (fun read => (· = .expectCommaOrEnd (.array read) frames)) where
  opens builder awaits := by
    refine ⟨.expectItemOrEnd frames, ?_, .item frames, rfl⟩
    cases awaits <;> rfl
  comma read := by
    rintro builder rfl
    exact ⟨_, rfl, .value _⟩
  closes read := by
    rintro builder rfl
    exact ⟨_, rfl, rfl⟩

theorem encloses_object (frames : List Frame) :
    Encloses .beginObject .endObject frames .object (AwaitsName frames) (HasMembers frames) where
  opens builder awaits := by
    refine ⟨.expectNameOrEnd frames, ?_, .first, rfl⟩
    cases awaits <;> rfl
  comma read := by
    rintro builder ⟨name⟩
    exact ⟨_, rfl, .name read⟩
  closes read := by
    rintro builder ⟨name⟩
    exact ⟨_, rfl, rfl⟩

namespace Encloses

variable {α : Type} {opening closing : Token} {whole : List α → Tree}
  {awaits has : List α → Builder → Prop} {parts : List (List Char)} {values : List α}

/-- Parts are read one after the other, with commas between them. -/
theorem takes_separate (encloses : Encloses opening closing frames whole awaits has)
    (each : List.Forall₂ (fun part value => ∀ read,
      Takes part (awaits read) (has (value :: read))) parts values)
    (nonempty : parts ≠ []) (read : List α) :
    Takes (separate parts) (awaits read) (has (values.reverse ++ read)) := by
  induction each generalizing read with
  | nil => exact (nonempty rfl).elim
  | @cons part value parts values first rest ih =>
      cases rest with
      | nil => exact first read
      | @cons next _ parts _ second rest =>
          have later := ih (List.cons_ne_nil _ _) (value :: read)
          rw [List.reverse_cons, List.append_assoc, List.singleton_append]
          exact (first read).append (later.mark .comma (encloses.comma _)) rfl

/-- The whole is read if every part is read wherever a part is awaited. -/
theorem takes (encloses : Encloses opening closing frames whole awaits has) {begin ending : Char}
    (isOpening : IsMark begin opening) (isClosing : IsMark ending closing)
    (each : List.Forall₂ (fun part value => ∀ read,
      Takes part (awaits read) (has (value :: read))) parts values)
    {spaces : List Char} (blank : ∀ space ∈ spaces, isSpace space = true) :
    Takes (begin :: (separate parts ++ (spaces ++ [ending]))) (AwaitsValue frames)
      (· = complete (whole values) frames) := by
  cases each with
  | nil =>
      -- The closing mark comes where the first part might have begun.
      have closes : Moves closing (step · closing = some (complete (whole []) frames))
          (· = complete (whole []) frames) := fun _ ends => ⟨_, ends, rfl⟩
      exact (((takes_nil _).mark isClosing closes).spaces blank).mark isOpening
        (encloses.opens.imp fun _ next => next.2)
  | @cons part value parts values first rest =>
      have read := encloses.takes_separate (.cons first rest) (List.cons_ne_nil part parts) []
      have closes := encloses.closes ((value :: values).reverse ++ [])
      rw [List.append_nil, List.reverse_reverse] at closes
      rw [List.append_nil] at read
      exact (read.close blank isClosing closes).mark isOpening
        (encloses.opens.imp fun _ next => next.1)

end Encloses

theorem writes_array {parts : List (List Char)} {trees : List Tree}
    (each : List.Forall₂ Writes parts trees) {spaces : List Char}
    (blank : ∀ space ∈ spaces, isSpace space = true) :
    Writes ('[' :: (separate parts ++ (spaces ++ [']']))) (.array trees) := fun frames =>
  (encloses_array frames).takes .beginArray .endArray
    (each.imp fun _ _ writes read => writes (.array read :: frames)) blank

theorem writes_object {parts : List (List Char)} {members : List (List Piece × Tree)}
    (each : List.Forall₂ WritesMember parts members) {spaces : List Char}
    (blank : ∀ space ∈ spaces, isSpace space = true) :
    Writes ('\x7b' :: (separate parts ++ (spaces ++ ['\x7d']))) (.object members) := fun frames =>
  (encloses_object frames).takes .beginObject .endObject
    (each.imp fun _ _ writes => writes frames) blank

theorem writesMember {written : List Char} {pieces : List Piece}
    (ends : Token.Scanner.Ends written (.text pieces)) {spaces : List Char}
    (blank : ∀ space ∈ spaces, isSpace space = true)
    (writes : Writes characters tree) :
    WritesMember (written ++ ':' :: (spaces ++ characters)) (pieces, tree) := by
  intro frames members
  have named : Moves (.text pieces) (AwaitsName frames members)
      (· = .expectColon frames members pieces) := by
    intro builder awaits
    cases awaits <;> exact ⟨_, rfl, rfl⟩
  have colon : Moves .colon (· = .expectColon frames members pieces)
      (AwaitsValue (.object members pieces :: frames)) := by
    rintro builder rfl
    exact ⟨_, rfl, .value _⟩
  have value : Takes characters (AwaitsValue (.object members pieces :: frames))
      (HasMembers frames ((pieces, tree) :: members)) := by
    obtain ⟨tokens, spells, leads⟩ := writes (.object members pieces :: frames)
    refine ⟨tokens, spells, fun builder awaits => ?_⟩
    obtain ⟨next, isNext, rfl⟩ := leads builder awaits
    exact ⟨_, isNext, .intro _ _⟩
  exact ((value.spaces blank).mark .colon colon).cons ends named

theorem Writes.read?_eq (writes : Writes characters tree) :
    read? (String.ofList characters) = some tree := by
  obtain ⟨tokens, spells, leads⟩ := writes []
  obtain ⟨next, isNext, rfl⟩ := leads (.expectValue []) (.value [])
  rw [read?, spells.scan?_eq, Option.bind_eq_bind, Option.bind_some, ofTokens?, isNext]
  rfl

/-! ## Written values -/

/-- A tree means a value and is read wherever the value has been written. -/
structure IsRead (value : Json) (tree : Tree) : Prop where
  means : tree.Means value
  compact : Writes (writeChars value) tree
  pretty (level : Nat) : Writes (layOut level value) tree

/-- A member of a tree is read wherever the member of a value has been written. -/
structure IsReadMember (member : String × Json) (read : List Piece × Tree) : Prop where
  name : decodeText? read.1 = some member.1
  means : read.2.Means member.2
  compact : WritesMember (writeText member.1 ++ ':' :: writeChars member.2) read
  pretty (level : Nat) :
    WritesMember (writeText member.1 ++ [':', ' '] ++ layOut level member.2) read

theorem writeItems_eq (items : List Json) : writeItems items = items.map writeChars := by
  induction items with
  | nil => rfl
  | cons item rest ih => rw [writeItems, ih, List.map_cons]

theorem writeMembers_eq (members : List (String × Json)) :
    writeMembers members =
      members.map fun member => writeText member.1 ++ ':' :: writeChars member.2 := by
  induction members with
  | nil => rfl
  | cons member rest ih => rw [writeMembers, ih, List.map_cons]

theorem layOutItems_eq (level : Nat) (items : List Json) :
    layOutItems level items = items.map (layOut level) := by
  induction items with
  | nil => rfl
  | cons item rest ih => rw [layOutItems, ih, List.map_cons]

theorem layOutMembers_eq (level : Nat) (members : List (String × Json)) :
    layOutMembers level members =
      members.map fun member => writeText member.1 ++ [':', ' '] ++ layOut level member.2 := by
  induction members with
  | nil => rfl
  | cons member rest ih => rw [layOutMembers, ih, List.map_cons]

theorem separateLines_eq (level : Nat) (parts : List (List Char)) :
    separateLines level parts = separate (parts.map (newLine level ++ ·)) := by
  induction parts with
  | nil => rfl
  | cons part rest ih =>
      cases rest with
      | nil => rfl
      | cons next rest => rw [separateLines, ih] <;> simp [separate]

theorem isSpace_of_mem_newLine {level : Nat} :
    ∀ space ∈ newLine level, isSpace space = true := by
  simp [newLine, isSpace]

/-- Between its marks an array is laid out as its items, with white space in front of each
and perhaps at the end. -/
theorem exists_layOut_array (level : Nat) (items : List Json) :
    ∃ spaces, (∀ space ∈ spaces, isSpace space = true) ∧
      layOut level (.array items) =
        '[' :: (separate ((items.map (layOut (level + 1))).map (newLine (level + 1) ++ ·)) ++
          (spaces ++ [']'])) := by
  cases items with
  | nil => exact ⟨[], by simp, rfl⟩
  | cons item rest =>
      refine ⟨newLine level, isSpace_of_mem_newLine, ?_⟩
      rw [layOut, separateLines_eq, layOutItems_eq, List.cons_append, List.cons_append,
        List.append_assoc]
      exact List.cons_ne_nil item rest

theorem exists_layOut_object (level : Nat) (members : List (String × Json)) :
    ∃ spaces, (∀ space ∈ spaces, isSpace space = true) ∧
      layOut level (.object members) =
        '\x7b' :: (separate ((members.map fun member =>
          writeText member.1 ++ [':', ' '] ++ layOut (level + 1) member.2).map
            (newLine (level + 1) ++ ·)) ++ (spaces ++ ['\x7d'])) := by
  cases members with
  | nil => exact ⟨[], by simp, rfl⟩
  | cons member rest =>
      refine ⟨newLine level, isSpace_of_mem_newLine, ?_⟩
      rw [layOut, separateLines_eq, layOutMembers_eq, List.cons_append, List.cons_append,
        List.append_assoc]
      exact List.cons_ne_nil member rest

theorem isRead_array {items : List Json} {trees : List Tree}
    (each : List.Forall₂ IsRead items trees) : IsRead (.array items) (.array trees) where
  means := .array (each.imp fun _ _ isRead => isRead.means).flip
  compact := by
    have parts : List.Forall₂ Writes (items.map writeChars) trees :=
      List.forall₂_map_left_iff.2 (each.imp fun _ _ isRead => isRead.compact)
    rw [writeChars, writeItems_eq]
    exact writes_array parts (List.forall_mem_nil _)
  pretty level := by
    obtain ⟨spaces, blank, isLaidOut⟩ := exists_layOut_array level items
    rw [isLaidOut]
    refine writes_array ?_ blank
    rw [List.forall₂_map_left_iff, List.forall₂_map_left_iff]
    exact each.imp fun _ _ isRead frames =>
      (isRead.pretty (level + 1) frames).spaces isSpace_of_mem_newLine

theorem isRead_object {members : List (String × Json)} {read : List (List Piece × Tree)}
    (each : List.Forall₂ IsReadMember members read) : IsRead (.object members) (.object read) where
  means := by
    refine .object ?_ ?_ <;> rw [List.forall₂_map_left_iff, List.forall₂_map_right_iff]
    · exact (each.imp fun _ _ isRead => isRead.name).flip
    · exact (each.imp fun _ _ isRead => isRead.means).flip
  compact := by
    have parts := List.forall₂_map_left_iff.2 (each.imp fun _ _ isRead => isRead.compact)
    rw [writeChars, writeMembers_eq]
    exact writes_object parts (List.forall_mem_nil _)
  pretty level := by
    obtain ⟨spaces, blank, isLaidOut⟩ := exists_layOut_object level members
    rw [isLaidOut]
    refine writes_object ?_ blank
    rw [List.forall₂_map_left_iff, List.forall₂_map_left_iff]
    exact each.imp fun _ _ isRead frames before =>
      (isRead.pretty (level + 1) frames before).spaces isSpace_of_mem_newLine

theorem exists_isReadMember {member : String × Json} (isRead : IsRead member.2 tree) :
    ∃ read, IsReadMember member read := by
  obtain ⟨pieces, decoded, ends⟩ := Token.Scanner.exists_text member.1
  refine ⟨(pieces, tree), decoded, isRead.means, ?_, fun level => ?_⟩
  · exact writesMember ends (List.forall_mem_nil _) isRead.compact
  · have blank : ∀ space ∈ [' '], isSpace space = true := by simp [isSpace]
    simpa using writesMember ends blank (isRead.pretty level)

/-- A value that is a single token is laid out as it is written on one line. -/
theorem isRead_of_writes {value : Json} (means : tree.Means value)
    (writes : Writes (writeChars value) tree)
    (laidOut : ∀ level, layOut level value = writeChars value) : IsRead value tree :=
  ⟨means, writes, fun level => (laidOut level).symm ▸ writes⟩

theorem writes_of_word (token : Token)
    (each : ∀ character ∈ characters, isWordChar character = true)
    (meant : Token.ofWord? characters = some token) (nonempty : characters ≠ [])
    (moved : ∀ frames, Builder.stepValue frames token = some (complete tree frames))
    (notEnd : token ≠ .endArray) : Writes characters tree :=
  fun _ => takes_of_word each meant nonempty (moves_value moved notEnd)

/-- Every value without doubles is read as a tree that means it, however it was written. -/
theorem exists_isRead {value : Json} (whole : Whole value) : ∃ tree, IsRead value tree := by
  induction whole with
  | null =>
      exact ⟨.null, isRead_of_writes .null
        (writes_of_word .null (List.all_eq_true.1 rfl) rfl (by decide) (fun _ => rfl) (by simp))
        fun _ => rfl⟩
  | bool value =>
      refine ⟨.bool value, isRead_of_writes (.bool value) ?_ fun _ => rfl⟩
      cases value <;>
        exact writes_of_word (.bool _) (List.all_eq_true.1 rfl) rfl (by decide) (fun _ => rfl)
          (by simp)
  | number isInteger =>
      obtain ⟨spelling, spelled, held⟩ := isInteger.exists_spelling
      exact ⟨.number spelling, isRead_of_writes (.number held)
        (writes_of_word (.number spelling) isInteger.isWordChar (Token.ofWord?_of_spelling spelled)
          isInteger.toText_ne_nil (fun _ => rfl) (by simp)) fun _ => rfl⟩
  | text value =>
      obtain ⟨pieces, decoded, ends⟩ := Token.Scanner.exists_text value
      refine ⟨.text pieces, isRead_of_writes (.text decoded) (fun frames => ?_) fun _ => rfl⟩
      have moves : Moves (.text pieces) (AwaitsValue frames) (· = complete (.text pieces) frames) :=
        moves_value (fun _ => rfl) (by simp)
      have ending := (takes_nil _).cons ends moves
      rwa [List.append_nil] at ending
  | array _ ih =>
      obtain ⟨trees, each⟩ := exists_forall₂_of_forall ih
      exact ⟨.array trees, isRead_array each⟩
  | object _ ih =>
      obtain ⟨read, each⟩ := exists_forall₂_of_forall fun member among =>
        (ih member among).elim fun _ isRead => exists_isReadMember isRead
      exact ⟨.object read, isRead_object each⟩

end Tree

/-- Whether a value without doubles was written on one line or over several, the document has
the same tree, which means the value. -/
theorem Whole.exists_tree {value : Json} (whole : Whole value) : ∃ tree : Tree,
    tree.Means value ∧ Tree.read? value.compact = some tree ∧
      Tree.read? value.pretty = some tree := by
  obtain ⟨tree, isRead⟩ := Tree.exists_isRead whole
  exact ⟨tree, isRead.means, isRead.compact.read?_eq, (isRead.pretty 0).read?_eq⟩

end Screenplay.Json
