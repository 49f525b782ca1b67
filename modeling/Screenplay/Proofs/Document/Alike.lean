import Screenplay.Proofs.Document.Sections

/-!
# Documents that read alike

One value may be read as what another one is, although they differ: in the padding of their
names and texts, in the order of members, or in members that nobody looks at.  It is enough
that this is so of what the readers see of a value.  Texts agree without their padding,
numbers are the same, arrays agree item by item, and objects give each property a value that
is read alike.

What a value describes is then described by the other one as well.
-/

namespace Screenplay.Document

/-- Entries that define the same names, with values that are read alike. -/
structure EntriesAlike (alike : Json → Json → Prop) (entries others : Members) : Prop where
  defines : Defines others
  original : ∀ other ∈ others, ∃ entry ∈ entries,
    Text.trim entry.1 = Text.trim other.1 ∧ alike entry.2 other.2
  complete : ∀ entry ∈ entries, ∃ other ∈ others, Text.trim other.1 = Text.trim entry.1

/-- Members that give the same properties, with values that are read alike. -/
structure MembersAlike (alike : Json → Json → Prop) (members others : Members) : Prop where
  gives : ∀ {name value}, Text.trim name = name → Gives members name value →
    ∃ other, Gives others name other ∧ alike value other
  lacks : ∀ {name}, Text.trim name = name → Lacks members name → Lacks others name
  names : ∀ other ∈ others, ∃ member ∈ members, Text.trim member.1 = Text.trim other.1
  entries : Defines members → EntriesAlike alike members others

/-- Values that are related are alike in all that the readers see of them. -/
structure ReadsAlike (alike : Json → Json → Prop) : Prop where
  text : ∀ {written other}, alike (.text written) other →
    ∃ rewritten, other = .text rewritten ∧ Text.trim rewritten = Text.trim written
  number : ∀ {number other}, alike (.number number) other → other = .number number
  array : ∀ {items other}, alike (.array items) other →
    ∃ others, other = .array others ∧ List.Forall₂ alike items others
  object : ∀ {members other}, alike (.object members) other →
    ∃ others, other = .object others ∧ MembersAlike alike members others

variable {alike : Json → Json → Prop} {members others : Members} {name text : String}
  {value other : Json} {form : Json → Prop} {descriptor : Descriptor} {workflow : Workflow}

/-! ## Properties -/

theorem MembersAlike.requires (same : MembersAlike alike members others)
    (requires : Requires members name form) (plain : Text.trim name = name)
    (keeps : ∀ {value other}, alike value other → form value → form other) :
    Requires others name form := by
  rcases requires with ⟨value, gives, formed⟩
  rcases same.gives plain gives with ⟨other, givesOther, related⟩
  exact ⟨other, givesOther, keeps related formed⟩

theorem MembersAlike.holds {α : Type} {form : α → Json → Prop} {result : Option α}
    (same : MembersAlike alike members others) (holds : Holds members name form result)
    (plain : Text.trim name = name)
    (keeps : ∀ {result value other}, alike value other → form result value → form result other) :
    Holds others name form result := by
  cases result with
  | none => exact same.lacks plain holds
  | some result => exact same.requires holds plain keeps

theorem MembersAlike.namedAmong {allowed : List String}
    (same : MembersAlike alike members others) (named : NamedAmong allowed members) :
    NamedAmong allowed others := by
  intro other among
  rcases same.names other among with ⟨member, isMember, sameName⟩
  exact sameName ▸ named member isMember

namespace ReadsAlike

variable {number : Nat} (reads : ReadsAlike alike) (related : alike value other)

include reads related

theorem isObject {shape : Members → Prop} (isObject : IsObject shape value)
    (keeps : ∀ {members others}, MembersAlike alike members others → shape members → shape others) :
    IsObject shape other := by
  rcases isObject with ⟨members, rfl, shaped⟩
  rcases reads.object related with ⟨others, rfl, same⟩
  exact ⟨others, rfl, keeps same shaped⟩

theorem spells (spells : Spells text value) : Spells text other := by
  rcases spells with ⟨written, rfl, padding⟩
  rcases reads.text related with ⟨rewritten, rfl, same⟩
  exact ⟨rewritten, rfl, same.trans padding⟩

theorem standsFor (stands : StandsFor value number) : StandsFor other number := by
  cases stands with
  | number value =>
      rw [reads.number related]
      exact .number value
  | text denotes =>
      rcases reads.text related with ⟨rewritten, rfl, same⟩
      exact .text (same ▸ denotes)

end ReadsAlike

/-! ## Elements and tasks -/

theorem trimPackage_congr {package other : String} (same : Text.trim other = Text.trim package) :
    Descriptor.trimPackage (some other) = Descriptor.trimPackage (some package) := by
  simp [Descriptor.trimPackage, same]

namespace MembersAlike

variable (same : MembersAlike alike members others) (reads : ReadsAlike alike)

include same reads

theorem describesElement (describes : DescribesElement descriptor members) :
    DescribesElement descriptor others := by
  refine ⟨same.namedAmong describes.names,
    same.requires describes.kind (by decide) reads.spells,
    same.requires describes.value (by decide) reads.spells, ?_⟩
  rcases describes.package with ⟨_ | package, holds, samePackage⟩
  · exact ⟨none, same.lacks (by decide) holds, samePackage⟩
  · rcases holds with ⟨_, gives, rfl⟩
    rcases same.gives (by decide) gives with ⟨_, givesOther, related⟩
    rcases reads.text related with ⟨rewritten, rfl, sameText⟩
    exact ⟨some rewritten, ⟨_, givesOther, rfl⟩,
      samePackage.trans (trimPackage_congr sameText).symm⟩

theorem describesCount {fallback number : Nat}
    (describes : DescribesCount members name fallback number) (plain : Text.trim name = name) :
    DescribesCount others name fallback number := by
  rcases describes with ⟨written, holds, isNumber⟩
  exact ⟨written, same.holds holds plain reads.standsFor, isNumber⟩

end MembersAlike

theorem ReadsAlike.describesElement (reads : ReadsAlike alike) (related : alike value other)
    (isElement : IsObject (DescribesElement descriptor) value) :
    IsObject (DescribesElement descriptor) other :=
  reads.isObject related isElement fun same => same.describesElement reads

namespace MembersAlike

variable (same : MembersAlike alike members others) (reads : ReadsAlike alike)

include same reads

theorem describesAction {action : ScrollAction} (describes : DescribesAction members action) :
    DescribesAction others action := by
  cases action with
  | buttons forward backward =>
      rcases describes with ⟨named, forwardRead, backwardRead⟩
      exact ⟨same.requires named (by decide) reads.spells,
        same.requires forwardRead (by decide) reads.describesElement,
        same.requires backwardRead (by decide) reads.describesElement⟩
  | gesture axis container =>
      rcases describes with ⟨named, axisRead, containerRead⟩
      exact ⟨same.requires named (by decide) reads.spells,
        same.requires axisRead (by decide) reads.spells,
        same.requires containerRead (by decide) reads.describesElement⟩

theorem describesScroll {scroll : Scroll} (describes : DescribesScroll scroll members) :
    DescribesScroll scroll others where
  names := same.namedAmong describes.names
  action := same.describesAction reads describes.action
  margin := same.describesCount reads describes.margin (by decide)
  waitSeconds := same.describesCount reads describes.waitSeconds (by decide)

theorem describesPayload {action : Action} (describes : DescribesPayload action members) :
    DescribesPayload action others where
  names := same.namedAmong describes.names
  text := same.holds describes.text (by decide) fun related spelled =>
    ⟨reads.spells related spelled.1, spelled.2⟩
  element := same.holds describes.element (by decide) reads.describesElement

theorem describesTask {task : Task} (describes : DescribesTask task members) :
    DescribesTask task others where
  names := same.namedAmong describes.names
  name := same.requires describes.name (by decide) reads.spells
  named := describes.named
  kind := same.requires describes.kind (by decide) reads.spells
  payload := same.requires describes.payload (by decide) fun related isObject =>
    reads.isObject related isObject fun same => same.describesPayload reads
  scroll := same.holds describes.scroll (by decide) fun related isObject =>
    reads.isObject related isObject fun same => same.describesScroll reads
  repeatCount := same.describesCount reads describes.repeatCount (by decide)

end MembersAlike

/-! ## Workflows and sections -/

theorem ReadsAlike.tasks (reads : ReadsAlike alike) {items rewritten : List Json}
    {tasks : List Task} (related : List.Forall₂ alike items rewritten)
    (described : List.Forall₂ (fun item task => IsObject (DescribesTask task) item) items tasks) :
    List.Forall₂ (fun item task => IsObject (DescribesTask task) item) rewritten tasks := by
  induction related generalizing tasks with
  | nil => exact described
  | cons head _ ih =>
      rcases described with _ | ⟨isTask, others⟩
      refine .cons (reads.isObject head isTask fun same => ?_) (ih others)
      exact same.describesTask reads

theorem ReadsAlike.describesWorkflow (reads : ReadsAlike alike) (related : alike value other)
    (describes : DescribesWorkflow name workflow value) :
    DescribesWorkflow name workflow other := by
  rcases describes with ⟨sameName, items, rfl, tasks⟩
  rcases reads.array related with ⟨others, rfl, each⟩
  exact ⟨sameName, others, rfl, reads.tasks each tasks⟩

namespace MembersAlike

variable {α : Type} {entryForm : String → α → Json → Prop} {map : NameMap α}
  (same : MembersAlike alike members others)

include same

theorem describesEntries (describes : DescribesEntries entryForm map members)
    (keeps : ∀ {name result value other}, alike value other → entryForm name result value →
      entryForm name result other) : DescribesEntries entryForm map others := by
  have entries := same.entries describes.toDefines
  refine ⟨entries.defines, ?_, ?_⟩
  · intro other among
    rcases entries.original other among with ⟨entry, member, sameName, related⟩
    rcases describes.described entry member with ⟨result, found, formed⟩
    rw [sameName] at found formed
    exact ⟨result, found, keeps related formed⟩
  · intro name result found
    rcases describes.complete name result found with ⟨entry, member, rfl⟩
    exact entries.complete entry member

theorem describesSection (reads : ReadsAlike alike) {part : Section}
    (describes : DescribesSection part entryForm map members)
    (keeps : ∀ {name result value other}, alike value other → entryForm name result value →
      entryForm name result other) : DescribesSection part entryForm map others := by
  have plain : Text.trim part.name = part.name := by cases part <;> decide
  rcases describes with ⟨lacks, isEmpty⟩ | requires
  · exact .inl ⟨same.lacks plain lacks, isEmpty⟩
  · refine .inr (same.requires requires plain fun related isObject => ?_)
    exact reads.isObject related isObject fun same entries => same.describesEntries entries keeps

theorem describesConfig (reads : ReadsAlike alike) {config : Config}
    (describes : DescribesConfig config members) : DescribesConfig config others := by
  have keepsText : ∀ {name text value other}, alike value other → DescribesText name text value →
      DescribesText name text other :=
    fun related spelled => ⟨reads.spells related spelled.1, spelled.2⟩
  exact ⟨same.namedAmong describes.names,
    same.describesSection reads describes.commands keepsText,
    same.describesSection reads describes.packages keepsText,
    same.describesSection reads describes.actions keepsText,
    same.describesSection reads describes.elements reads.describesElement,
    same.describesSection reads describes.workflows reads.describesWorkflow⟩

end MembersAlike

/-- A value that is read like another one is accepted as the same configuration. -/
theorem ReadsAlike.ofJson (reads : ReadsAlike alike) (related : alike value other)
    {config : Config} (accepted : Config.ofJson value = .ok config) :
    Config.ofJson other = .ok config := by
  rw [ofJson_eq_ok_iff] at accepted ⊢
  exact reads.isObject related accepted fun same => same.describesConfig reads

end Screenplay.Document
