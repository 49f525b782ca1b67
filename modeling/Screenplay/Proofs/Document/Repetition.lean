import Screenplay.Proofs.Document.Sections
import Screenplay.Proofs.Layering.Definitions

/-!
# Names that are written more than once

In the text of a document an object may have several members with one name.  Of these
only the last one becomes a member of the value that is read, so that a later check of
names does not see the others.

A section in which two names are the same but for padding is refused if the names differ
as they are written.  A name that is written again in the same way is accepted, and has
the last of its definitions; no other definition is lost.
-/

namespace Screenplay

namespace Json

/-- The members of an object as they are written. -/
abbrev WrittenMembers := List (List Piece × Tree)

/-- A name is written in an object. -/
def Names (written : WrittenMembers) (name : String) : Prop :=
  ∃ member ∈ written, decodeText? member.1 = some name

/-- The last member with some name has a tree as its value. -/
def LastNamed (written : WrittenMembers) (name : String) (tree : Tree) : Prop :=
  ∃ before pieces after, written = before ++ (pieces, tree) :: after ∧
    decodeText? pieces = some name ∧ ¬ Names after name

variable {written rest : WrittenMembers} {pieces : List Piece} {tree : Tree} {name : String}

theorem LastNamed.names (last : LastNamed written name tree) : Names written name := by
  rcases last with ⟨before, pieces, after, rfl, decoded, -⟩
  exact ⟨(pieces, tree), by simp, decoded⟩

theorem names_cons_iff {member : List Piece × Tree} :
    Names (member :: rest) name ↔ decodeText? member.1 = some name ∨ Names rest name := by
  simp [Names]

theorem lastNamed_cons_iff {member : List Piece × Tree} :
    LastNamed (member :: rest) name tree ↔
      LastNamed rest name tree ∨
        (decodeText? member.1 = some name ∧ member.2 = tree ∧ ¬ Names rest name) := by
  constructor
  · intro last
    rcases last with ⟨before, pieces, after, split, decoded, isLast⟩
    cases before with
    | nil =>
        cases split
        exact .inr ⟨decoded, rfl, isLast⟩
    | cons first before =>
        cases split
        exact .inl ⟨before, pieces, after, rfl, decoded, isLast⟩
  · intro holds
    rcases holds with ⟨before, pieces, after, rfl, decoded, isLast⟩ | ⟨decoded, rfl, isLast⟩
    · exact ⟨member :: before, pieces, after, rfl, decoded, isLast⟩
    · exact ⟨[], member.1, rest, rfl, decoded, isLast⟩

/-- A name that is written is written a last time. -/
theorem Names.exists_lastNamed (names : Names written name) :
    ∃ tree, LastNamed written name tree := by
  induction written with
  | nil => simp [Names] at names
  | cons member rest ih =>
      by_cases again : Names rest name
      · rcases ih again with ⟨tree, last⟩
        exact ⟨tree, lastNamed_cons_iff.2 (.inl last)⟩
      · have decoded := (names_cons_iff.1 names).resolve_right again
        exact ⟨_, lastNamed_cons_iff.2 (.inr ⟨decoded, rfl, again⟩)⟩

/-! ## Interpreting members -/

variable {budget : Nat} {sorted members : List (String × Json)} {value : Json}

/-- To interpret members is to interpret the first one and to put it among the others. -/
theorem ofMembers?_cons_eq_some_iff :
    ofMembers? budget sorted ((pieces, tree) :: rest) = some members ↔
      ∃ name value, decodeText? pieces = some name ∧ ofTree? budget tree = some value ∧
        ofMembers? budget (insertEntry name value sorted) rest = some members := by
  simp [ofMembers?, Option.bind_eq_some_iff]

theorem increasing_ofMembers? (increasing : Increasing sorted)
    (read : ofMembers? budget sorted written = some members) : Increasing members := by
  induction written generalizing sorted with
  | nil =>
      cases read
      exact increasing
  | cons member rest ih =>
      rcases ofMembers?_cons_eq_some_iff.1 read with ⟨name, value, -, -, restRead⟩
      exact ih (increasing_insertEntry increasing) restRead

/-- A name has the value that was written last, or the one that it had before. -/
theorem lookup_ofMembers?_iff (read : ofMembers? budget sorted written = some members) :
    members.lookup name = some value ↔
      (∃ tree, LastNamed written name tree ∧ ofTree? budget tree = some value) ∨
        (¬ Names written name ∧ sorted.lookup name = some value) := by
  induction written generalizing sorted with
  | nil =>
      cases read
      simp [Names, LastNamed]
  | cons member rest ih =>
      rcases ofMembers?_cons_eq_some_iff.1 read with ⟨first, firstValue, decoded, meant, restRead⟩
      rw [ih restRead, lookup_insertEntry]
      simp only [lastNamed_cons_iff, names_cons_iff, decoded, Option.some.injEq]
      by_cases same : name = first
      · subst same
        simp only [if_true, true_and, true_or, not_true_eq_false, false_and, or_false]
        constructor
        · intro holds
          rcases holds with ⟨tree, last, isValue⟩ | ⟨isLast, isValue⟩
          · exact ⟨tree, .inl last, isValue⟩
          · exact ⟨member.2, .inr ⟨rfl, isLast⟩, by rw [meant, isValue]⟩
        · intro holds
          rcases holds with ⟨tree, last | ⟨rfl, isLast⟩, isValue⟩
          · exact .inl ⟨tree, last, isValue⟩
          · exact .inr ⟨isLast, by rw [← meant, isValue]⟩
      · simp [same, Ne.symm same]

theorem exists_ofTree?_of_lastNamed (read : ofMembers? budget sorted written = some members)
    (last : LastNamed written name tree) : ∃ value, ofTree? budget tree = some value := by
  rcases last with ⟨before, pieces, after, rfl, -, -⟩
  induction before generalizing sorted with
  | nil =>
      rcases ofMembers?_cons_eq_some_iff.1 read with ⟨_, value, -, meant, -⟩
      exact ⟨value, meant⟩
  | cons member before ih =>
      rcases ofMembers?_cons_eq_some_iff.1 read with ⟨_, _, -, -, restRead⟩
      exact ih restRead

/-- The members of an object that is read: each name with what was written last. -/
theorem lookup_of_lastNamed (read : ofMembers? budget [] written = some members)
    (last : LastNamed written name tree) (meant : ofTree? budget tree = some value) :
    members.lookup name = some value :=
  (lookup_ofMembers?_iff read).2 (.inl ⟨tree, last, meant⟩)

theorem names_of_mem (read : ofMembers? budget [] written = some members)
    (among : (name, value) ∈ members) : Names written name := by
  have increasing := increasing_ofMembers? (show Increasing [] from List.Pairwise.nil) read
  have found := (lookup_eq_some_iff_of_nodup increasing.nodup).2 among
  rcases (lookup_ofMembers?_iff read).1 found with ⟨tree, last, -⟩ | ⟨-, impossible⟩
  · exact last.names
  · cases impossible

theorem exists_mem_of_names (read : ofMembers? budget [] written = some members)
    (names : Names written name) : ∃ value, (name, value) ∈ members := by
  rcases names.exists_lastNamed with ⟨tree, last⟩
  rcases exists_ofTree?_of_lastNamed read last with ⟨value, meant⟩
  have increasing := increasing_ofMembers? (show Increasing [] from List.Pairwise.nil) read
  exact ⟨value, (lookup_eq_some_iff_of_nodup increasing.nodup).1
    (lookup_of_lastNamed read last meant)⟩

theorem ofTree?_object_eq_some_iff :
    ofTree? budget (.object written) = some value ↔
      budget ≠ 0 ∧ ∃ members, ofMembers? (budget - 1) [] written = some members ∧
        Json.object members = value := by
  by_cases exhausted : budget = 0 <;> simp [ofTree?, exhausted]

end Json

namespace Document

open Json

/-! ## Sections of a text -/

/-- The tree from which a property is read, in an object as it is written: that of the last
member with exactly its name or, if there is none, that of the last member with the first
padded name. -/
inductive WrittenFor (written : WrittenMembers) (name : String) (tree : Tree) : Prop where
  | exact (last : LastNamed written name tree)
  | padded (spelled : String) (last : LastNamed written spelled tree)
      (padding : Text.trim spelled = name)
      (first : ∀ other, Names written other → Text.trim other = name → ¬ other < spelled)
      (inexact : ¬ Names written name)

/-- The entries of a section that is read, as they are written. -/
def ReadsSection (document : Tree) (part : Section) (entries : WrittenMembers) : Prop :=
  ∃ written, document = .object written ∧ WrittenFor written part.name (.object entries)

variable {budget : Nat} {written : WrittenMembers} {members : Members} {tree : Tree}
  {name : String} {value : Json}

theorem exists_ofTree?_of_writtenFor (read : ofMembers? budget [] written = some members)
    (isWritten : WrittenFor written name tree) : ∃ value, ofTree? budget tree = some value := by
  cases isWritten with
  | exact last => exact exists_ofTree?_of_lastNamed read last
  | padded spelled last => exact exists_ofTree?_of_lastNamed read last

theorem readFrom_of_writtenFor (read : ofMembers? budget [] written = some members)
    (isWritten : WrittenFor written name tree) (meant : ofTree? budget tree = some value) :
    ReadFrom members name value := by
  have increasing := increasing_ofMembers? (show Increasing [] from List.Pairwise.nil) read
  rcases isWritten with last | ⟨spelled, last, padding, first, inexact⟩
  · have found := lookup_of_lastNamed read last meant
    rw [readFrom_iff, found]
    rfl
  · have found := lookup_of_lastNamed read last meant
    rcases List.lookup_eq_some_iff.1 found with ⟨before, after, split, -⟩
    refine .padded spelled before after split padding ?_ ?_
    · intro member among same
      have less : member.1 < spelled := by
        rw [split] at increasing
        exact (List.pairwise_append.1 increasing).2.2 member among _ (List.mem_cons_self ..)
      have isMember : (member.1, member.2) ∈ members := by
        rw [split]
        exact List.mem_append_left _ among
      exact first member.1 (names_of_mem read isMember) same less
    · intro member among same
      subst same
      exact inexact (names_of_mem read among)

/-- What it means that a name of a section stands for a value of a document. -/
def DescribesValue : (part : Section) → String → part.Value → Json → Prop
  | .commands => DescribesText
  | .packages => DescribesText
  | .actions => DescribesText
  | .elements => DescribesNamedElement
  | .workflows => DescribesWorkflow

theorem DescribesConfig.definitions {config : Config} (describes : DescribesConfig config members)
    (part : Section) :
    DescribesSection part (DescribesValue part) (config.definitions part) members := by
  cases part with
  | commands => exact describes.commands
  | packages => exact describes.packages
  | actions => exact describes.actions
  | elements => exact describes.elements
  | workflows => exact describes.workflows

theorem DescribesSection.entries {α : Type} {part : Section} {form : String → α → Json → Prop}
    {map : NameMap α} {entries : Members} (describes : DescribesSection part form map members)
    (gives : Gives members part.name (.object entries)) : DescribesEntries form map entries := by
  rcases describes with ⟨lacks, -⟩ | ⟨other, givesOther, otherEntries, isObject, described⟩
  · exact (lacks _ gives).elim
  · have same := (gives.unique givesOther).trans isObject
    cases same
    exact described

/-- The section of an accepted text that is read describes its part of the configuration,
with every name as it was written last. -/
theorem exists_describesEntries_of_readsSection {document : String} {config : Config}
    {part : Section} {entries : WrittenMembers} (isTree : Tree.read? document = some tree)
    (isRead : ReadsSection tree part entries) (accepted : Config.ofText document = .ok config) :
    ∃ sorted, ofMembers? (nestingLimit - 2) [] entries = some sorted ∧
      DescribesEntries (DescribesValue part) (config.definitions part) sorted := by
  rcases isRead with ⟨written, rfl, isWritten⟩
  have isRead : Json.read? document = ofTree? nestingLimit (.object written) := by
    rw [Json.read?, isTree]
    rfl
  rw [Config.ofText, isRead] at accepted
  split at accepted
  next => cases accepted
  next value meant =>
    rcases ofTree?_object_eq_some_iff.1 meant with ⟨-, members, membersRead, rfl⟩
    rcases ofJson_eq_ok_iff.1 accepted with ⟨_, same, describes⟩
    cases same
    rcases exists_ofTree?_of_writtenFor membersRead isWritten with ⟨value, sectionMeant⟩
    have readFrom := readFrom_of_writtenFor membersRead isWritten sectionMeant
    rcases ofTree?_object_eq_some_iff.1 sectionMeant with ⟨-, sorted, sortedRead, rfl⟩
    exact ⟨sorted, sortedRead, (describes.definitions part).entries ⟨readFrom, nofun⟩⟩

end Document

open Json Document

/-- Take a section of a text that is read.  The text is refused if two names of the section
are the same but for padding, unless they are written in the same way.  If it is accepted,
each name is defined as it is written last. -/
theorem Config.ofText_definitions {document : String} {tree : Tree} {part : Section}
    {entries : WrittenMembers} (isTree : Tree.read? document = some tree)
    (isRead : ReadsSection tree part entries) :
    (∀ first second, Names entries first → Names entries second → first ≠ second →
        Text.trim first = Text.trim second → ∃ error, ofText document = .error error) ∧
      ∀ config, ofText document = .ok config →
        ∀ name written, LastNamed entries name written →
          ∃ json value, ofTree? (nestingLimit - 2) written = some json ∧
            (config.definitions part).get? (Text.trim name) = some value ∧
            DescribesValue part (Text.trim name) value json := by
  constructor
  · intro first second firstNamed secondNamed differ same
    cases accepted : ofText document with
    | error error => exact ⟨error, rfl⟩
    | ok config =>
        rcases exists_describesEntries_of_readsSection isTree isRead accepted with
          ⟨sorted, read, describes⟩
        rcases exists_mem_of_names read firstNamed with ⟨firstValue, firstAmong⟩
        rcases exists_mem_of_names read secondNamed with ⟨secondValue, secondAmong⟩
        have distinct := describes.distinct
        rw [List.map_map] at distinct
        have sameEntry := List.inj_on_of_nodup_map distinct firstAmong secondAmong same
        exact (differ (congrArg Prod.fst sameEntry)).elim
  · intro config accepted name written last
    rcases exists_describesEntries_of_readsSection isTree isRead accepted with
      ⟨sorted, read, describes⟩
    rcases exists_ofTree?_of_lastNamed read last with ⟨json, meant⟩
    have found := lookup_of_lastNamed read last meant
    have increasing := increasing_ofMembers? (show Increasing [] from List.Pairwise.nil) read
    have among := (lookup_eq_some_iff_of_nodup increasing.nodup).1 found
    rcases describes.described _ among with ⟨value, defined, described⟩
    exact ⟨json, value, meant, defined, described⟩

/-- The pieces of a text without escapes. -/
def plainPieces (text : String) : List Piece :=
  text.toList.map .char

/-- Two commands as they are written, the first of which is called `HOME`. -/
def twoCommands (second : String) : WrittenMembers :=
  [(plainPieces "HOME", .text (plainPieces "go home")),
    (plainPieces second, .text (plainPieces "leave"))]

theorem readsSection_twoCommands (second : String) :
    ReadsSection (.object [(plainPieces "COMMANDS", .object (twoCommands second))]) .commands
      (twoCommands second) :=
  ⟨_, rfl, .exact ⟨[], _, [], rfl, rfl, by simp [Names]⟩⟩

/-- A document that defines the command `HOME` twice, once with padding. -/
def paddedTwice : String :=
  "\x7b\"COMMANDS\":\x7b\"HOME\":\"go home\",\"HOME \":\"leave\"\x7d\x7d"

/-- A document that defines the command `HOME` twice in the same way. -/
def writtenTwice : String :=
  "\x7b\"COMMANDS\":\x7b\"HOME\":\"go home\",\"HOME\":\"leave\"\x7d\x7d"

theorem read?_writtenTwice :
    Tree.read? writtenTwice =
      some (.object [(plainPieces "COMMANDS", .object (twoCommands "HOME"))]) := by
  rfl

theorem Config.ofText_writtenTwice :
    ∃ config, ofText writtenTwice = .ok config ∧ config.store.command "HOME" = .ok "leave" := by
  have defines : (ofText writtenTwice).toOption.any fun config =>
      (config.store.command "HOME").toOption == some "leave" := by
    decide +kernel
  cases read : ofText writtenTwice with
  | error => simp [read, Except.toOption] at defines
  | ok config =>
      cases leaves : config.store.command "HOME" <;>
        simp_all [Except.toOption]

/-- Two names that differ in padding are refused, and of two that do not the last one
counts. -/
theorem Config.ofText_definitions_twoCommands :
    (∃ tree, Tree.read? paddedTwice = some tree ∧
      ReadsSection tree .commands (twoCommands "HOME ") ∧
      ∃ error, ofText paddedTwice = .error error) ∧
    ∃ tree config, Tree.read? writtenTwice = some tree ∧
      ReadsSection tree .commands (twoCommands "HOME") ∧
      ofText writtenTwice = .ok config ∧
      LastNamed (twoCommands "HOME") "HOME" (.text (plainPieces "leave")) ∧
      ∃ json value, ofTree? (nestingLimit - 2) (.text (plainPieces "leave")) = some json ∧
        (config.definitions .commands).get? "HOME" = some value ∧
        DescribesValue .commands "HOME" value json := by
  constructor
  · have isTree : Tree.read? paddedTwice =
        some (.object [(plainPieces "COMMANDS", .object (twoCommands "HOME "))]) := rfl
    have home : Names (twoCommands "HOME ") "HOME" :=
      ⟨_, List.mem_cons_self .., rfl⟩
    have padded : Names (twoCommands "HOME ") "HOME " :=
      ⟨_, List.mem_cons_of_mem _ (List.mem_cons_self ..), rfl⟩
    refine ⟨_, isTree, readsSection_twoCommands _, ?_⟩
    have refused := (ofText_definitions isTree (readsSection_twoCommands _)).1
    exact refused "HOME" "HOME " home padded (by decide) (by decide)
  · obtain ⟨config, accepted, -⟩ := ofText_writtenTwice
    have last : LastNamed (twoCommands "HOME") "HOME" (.text (plainPieces "leave")) :=
      ⟨[_], _, [], rfl, rfl, by simp [Names]⟩
    have defined := (ofText_definitions read?_writtenTwice (readsSection_twoCommands _)).2
    exact ⟨_, config, read?_writtenTwice, readsSection_twoCommands _, accepted, last,
      defined config accepted "HOME" _ last⟩

/-- The first of two definitions is discarded when their names are written in the same
way, although the document is accepted. -/
theorem Config.ofText_discards_first_definition :
    ∃ tree first second config, Tree.read? writtenTwice = some tree ∧
      ReadsSection tree .commands [first, second] ∧
      decodeText? first.1 = some "HOME" ∧ decodeText? second.1 = some "HOME" ∧
      ofText writtenTwice = .ok config ∧ config.store.command "HOME" = .ok "leave" := by
  have name : decodeText? (plainPieces "HOME") = some "HOME" := rfl
  obtain ⟨config, accepted, isLeave⟩ := ofText_writtenTwice
  exact ⟨_, _, _, config, read?_writtenTwice, readsSection_twoCommands "HOME", name, name,
    accepted, isLeave⟩

end Screenplay
