import Screenplay.Proofs.Scrolling.Runs

/-!
# The reach of a search

How far a search gets on a list screen, to the step, whichever way it scrolls.  A step
moves the page by one item unless it is at the end of the list in that direction, and
the search knows whether it did.  So rewinding makes one step for each item before the
page and one that moves nothing, unless the limit stops it, and so does the search
forward for the items after it.

A target is found at the first offset at which the page has an item that it means,
and the first such item from the start of the search on is found there.
-/

namespace Screenplay

/-! ## Items that are meant -/

/-- A target means no item with an index in a range. -/
def NoneIn (items : List Element) (target : Selector) (start stop : Nat) : Prop :=
  ∀ index item, start ≤ index → index < stop → items[index]? = some item →
    target.accepts item = false

/-- An item is the first one in a range that a target means. -/
structure FirstIn (items : List Element) (target : Selector) (start stop index : Nat)
    (item : Element) : Prop where
  notBefore : start ≤ index
  below : index < stop
  here : items[index]? = some item
  meant : target.accepts item = true
  first : NoneIn items target start index

section

variable {items : List Element} {target : Selector} {start stop later earlier index : Nat}
  {item : Element}

theorem NoneIn.mono (missing : NoneIn items target start stop) (starts : start ≤ later)
    (stops : earlier ≤ stop) : NoneIn items target later earlier :=
  fun index item notBefore below =>
    missing index item (Nat.le_trans starts notBefore) (Nat.lt_of_lt_of_le below stops)

/-- The first item of a range is the first one of a part of it that has the item. -/
theorem FirstIn.narrow (found : FirstIn items target start stop index item)
    (starts : start ≤ later) (notBefore : later ≤ index) (below : index < earlier) :
    FirstIn items target later earlier index item :=
  ⟨notBefore, below, found.here, found.meant, found.first.mono starts (Nat.le_refl _)⟩

/-- What is missing at the start of a range is not the first item of the range. -/
theorem FirstIn.le_of_noneIn (found : FirstIn items target start stop index item)
    (missing : NoneIn items target start later) : later ≤ index := by
  refine Nat.le_of_not_lt fun below => ?_
  have refused := missing index item found.notBefore below found.here
  rw [found.meant] at refused
  cases refused

/-- In every range there is a first item that is meant, or none. -/
theorem firstIn_or_noneIn (items : List Element) (target : Selector) (start stop : Nat) :
    (∃ index item, FirstIn items target start stop index item) ∨
      NoneIn items target start stop := by
  induction stop with
  | zero => exact .inr fun index item _ below => absurd below (Nat.not_lt_zero _)
  | succ stop ih =>
      rcases ih with ⟨index, item, found⟩ | missing
      · exact .inl ⟨index, item, found.narrow (Nat.le_refl _) found.notBefore
          (Nat.lt_succ_of_lt found.below)⟩
      · by_cases found : ∃ item, start ≤ stop ∧ items[stop]? = some item ∧
          target.accepts item = true
        · rcases found with ⟨item, notBefore, here, meant⟩
          exact .inl ⟨stop, item, notBefore, Nat.lt_succ_self _, here, meant, missing⟩
        · right
          intro index item notBefore below here
          rcases Nat.lt_or_eq_of_le (Nat.le_of_lt_succ below) with before | rfl
          · exact missing index item notBefore before here
          · rw [Bool.eq_false_iff]
            exact fun meant => found ⟨item, notBefore, here, meant⟩

end

namespace ListScreen

variable {State : Type} {engine : Engine State} (screen : ListScreen engine)

/-- A target means nothing beside the list. -/
def OnlyItems (target : Selector) : Prop :=
  ∀ offset, ∀ element ∈ screen.fixed offset, target.accepts element = false

variable {screen} {target : Selector}

/-! ## Pages -/

theorem page_getElem? (offset index : Nat) :
    (screen.page offset)[index]? =
      if index < screen.pageSize then screen.items[offset + index]? else none := by
  rw [page, List.getElem?_take, List.getElem?_drop]

/-- A page has no item that is meant. -/
theorem find?_page_eq_none {offset : Nat}
    (missing : NoneIn screen.items target offset (offset + screen.pageSize)) :
    (screen.page offset).find? target.accepts = none := by
  rw [List.find?_eq_none]
  intro item member
  rcases List.mem_iff_getElem?.1 member with ⟨index, found⟩
  rw [page_getElem?] at found
  split at found
  next within =>
    have refused := missing (offset + index) item (Nat.le_add_right ..)
      (Nat.add_lt_add_left within _) found
    simp [refused]
  next => simp at found

/-- The first item of a page that is meant. -/
theorem find?_page_eq_some {offset index : Nat} {item : Element}
    (found : FirstIn screen.items target offset (offset + screen.pageSize) index item) :
    (screen.page offset).find? target.accepts = some item := by
  rcases Nat.exists_eq_add_of_le found.notBefore with ⟨place, rfl⟩
  have within : place < screen.pageSize := Nat.lt_of_add_lt_add_left found.below
  have here : (screen.page offset)[place]? = some item := by
    rw [page_getElem?, if_pos within]
    exact found.here
  rcases List.getElem?_eq_some_iff.1 here with ⟨inPage, same⟩
  rw [List.find?_eq_some_iff_getElem]
  refine ⟨found.meant, place, inPage, same, fun earlier before => ?_⟩
  have shown : (screen.page offset)[earlier]? = screen.items[offset + earlier]? := by
    rw [page_getElem?, if_pos (Nat.lt_trans before within)]
  rw [List.getElem?_eq_getElem (Nat.lt_trans before inPage)] at shown
  rw [found.first (offset + earlier) _ (Nat.le_add_right ..) (Nat.add_lt_add_left before _)
    shown.symm]
  rfl

/-- Beside the list there is nothing to find. -/
theorem find?_shown (onlyItems : screen.OnlyItems target) (offset : Nat) :
    (screen.shown offset).find? target.accepts =
      (screen.page offset).find? target.accepts := by
  rw [shown, List.find?_append, List.find?_eq_none.2, Option.none_or]
  intro element member
  simp [onlyItems offset element member]

/-! ## Looking at pages -/

/-- What is found on a page that has something meant. -/
theorem takes_find_some (onlyItems : screen.OnlyItems target) (device : Device)
    {offset index : Nat} {item : Element}
    (found : FirstIn screen.items target offset (offset + screen.pageSize) index item) :
    screen.Takes (device.find target) offset (some item) [] offset := by
  have looked : screen.Takes (device.find target) offset
      ((screen.shown offset).find? target.accepts) [] offset :=
    Takes.find device target offset
  rw [find?_shown onlyItems, find?_page_eq_some found] at looked
  exact looked

/-- What is found on a page that has nothing meant. -/
theorem takes_find_none (onlyItems : screen.OnlyItems target) (device : Device) {offset : Nat}
    (missing : NoneIn screen.items target offset (offset + screen.pageSize)) :
    screen.Takes (device.find target) offset none [] offset := by
  have looked : screen.Takes (device.find target) offset
      ((screen.shown offset).find? target.accepts) [] offset :=
    Takes.find device target offset
  rw [find?_shown onlyItems, find?_page_eq_none missing] at looked
  exact looked

/-! ## Loops -/

section Loops

variable {search : Search} {scroll : Scroll} {description : String}
  {touched : Nat → Way → List Touch}

/-- The search forward from a page without anything meant: it stops at the first page
that has something, after as many steps as this takes. -/
theorem takes_findForward_some (scrolls : screen.Scrolls search scroll description touched)
    (paged : 0 < screen.pageSize) (onlyItems : screen.OnlyItems target)
    (steps : Nat) {offset index : Nat} {item : Element} (within : offset ≤ screen.last)
    (missing : NoneIn screen.items target offset (offset + screen.pageSize))
    (found : FirstIn screen.items target offset
      (min (offset + steps) screen.last + screen.pageSize) index item) :
    screen.Takes (search.findForward scroll target description steps) offset (some item)
      (stretch touched offset .forward (index + 1 - screen.pageSize - offset))
      (index + 1 - screen.pageSize) := by
  induction steps generalizing offset with
  | zero =>
      have beyond := found.le_of_noneIn missing
      have below := found.below
      omega
  | succ steps ih =>
      have beyond := found.le_of_noneIn missing
      have below := found.below
      have before : offset < screen.last := by omega
      have stepped := scrolls.moves .forward within (Nat.sub_pos_of_lt before)
      by_cases next : index < offset + 1 + screen.pageSize
      · have made : index + 1 - screen.pageSize - offset = 1 := by omega
        have stop : index + 1 - screen.pageSize = offset + 1 := by omega
        rw [made, stop, stretch_one, ← List.append_nil (touched offset .forward)]
        have looked := takes_find_some onlyItems search.device
          (found.narrow (Nat.le_succ offset) (by omega) next)
        exact stepped.bind (looked.after (Takes.pure _ _))
      · have missingNext : NoneIn screen.items target (offset + 1) (offset + 1 + screen.pageSize) :=
          found.first.mono (Nat.le_succ offset) (Nat.le_of_not_lt next)
        have made : index + 1 - screen.pageSize - offset =
            index + 1 - screen.pageSize - (offset + 1) + 1 := by omega
        have inReach : index < min (offset + 1 + steps) screen.last + screen.pageSize := by omega
        have foundLater := found.narrow (Nat.le_succ offset) (by omega) inReach
        have rest := ih (Nat.succ_le_of_lt before) missingNext foundLater
        rw [made, stretch_succ]
        exact stepped.bind ((takes_find_none onlyItems search.device missingNext).after rest)

theorem takes_findForward_none (scrolls : screen.Scrolls search scroll description touched)
    (onlyItems : screen.OnlyItems target) (steps : Nat) {offset : Nat}
    (within : offset ≤ screen.last)
    (missing : NoneIn screen.items target offset
      (min (offset + steps) screen.last + screen.pageSize)) :
    screen.Takes (search.findForward scroll target description steps) offset none
      (stretch touched offset .forward (min steps (screen.last - offset + 1)))
      (min (offset + steps) screen.last) := by
  induction steps generalizing offset with
  | zero =>
      rw [Nat.zero_min, Nat.add_zero, Nat.min_eq_left within]
      exact Takes.pure none offset
  | succ steps ih =>
      rcases Nat.lt_or_eq_of_le within with before | atEnd
      · have stepped := scrolls.moves .forward within (Nat.sub_pos_of_lt before)
        have missingNext : NoneIn screen.items target (offset + 1) (offset + 1 + screen.pageSize) :=
          missing.mono (Nat.le_succ offset) (by omega)
        have made : min (steps + 1) (screen.last - offset + 1) =
            min steps (screen.last - (offset + 1) + 1) + 1 := by omega
        have stop : min (offset + (steps + 1)) screen.last =
            min (offset + 1 + steps) screen.last := by omega
        have rest := ih (Nat.succ_le_of_lt before) (missing.mono (Nat.le_succ offset) (by omega))
        rw [made, stop, stretch_succ]
        exact stepped.bind ((takes_find_none onlyItems search.device missingNext).after rest)
      · have stepped := scrolls.rests .forward within (Nat.sub_eq_zero_of_le (Nat.le_of_eq atEnd.symm))
        have made : min (steps + 1) (screen.last - offset + 1) = 1 := by omega
        have stop : min (offset + (steps + 1)) screen.last = offset := by omega
        have missingHere : NoneIn screen.items target offset (offset + screen.pageSize) :=
          missing.mono (Nat.le_refl _) (by omega)
        rw [made, stop, stretch_one, ← List.append_nil (touched offset .forward)]
        exact stepped.bind ((takes_find_none onlyItems search.device missingHere).after
          (Takes.pure none offset))

/-! ## Searches -/

/-- A search that finds something on the page makes no step. -/
theorem takes_search_here (onlyItems : screen.OnlyItems target) (scroll : Scroll)
    {offset index : Nat} {item : Element}
    (found : FirstIn screen.items target offset (offset + screen.pageSize) index item) :
    screen.Takes (search.find scroll target description) offset (some item) [] offset :=
  (takes_find_some onlyItems search.device found).after (Takes.pure _ _)

/-- A search that rewinds and then finds something in reach. -/
theorem takes_search_some (scrolls : screen.Scrolls search scroll description touched)
    (paged : 0 < screen.pageSize) (onlyItems : screen.OnlyItems target) {offset index : Nat}
    {item : Element} (within : offset ≤ screen.last)
    (missing : NoneIn screen.items target offset (offset + screen.pageSize))
    (found : FirstIn screen.items target (offset - search.maxSteps)
      (min (offset - search.maxSteps + search.maxSteps) screen.last + screen.pageSize) index item) :
    screen.Takes (search.find scroll target description) offset (some item)
      (stretch touched offset .backward (min search.maxSteps (offset + 1)) ++
        stretch touched (offset - search.maxSteps) .forward
          (index + 1 - screen.pageSize - (offset - search.maxSteps)))
      (max (offset - search.maxSteps) (index + 1 - screen.pageSize)) := by
  have rewound : offset - search.maxSteps ≤ screen.last :=
    Nat.le_trans (Nat.sub_le ..) within
  refine (takes_find_none onlyItems search.device missing).after
    ((takes_toBeginning scrolls within).bind ?_)
  by_cases atStart : index < offset - search.maxSteps + screen.pageSize
  · have made : index + 1 - screen.pageSize - (offset - search.maxSteps) = 0 := by omega
    have stop : max (offset - search.maxSteps) (index + 1 - screen.pageSize) =
        offset - search.maxSteps := by omega
    rw [made, stop]
    have looked := takes_find_some onlyItems search.device
      (found.narrow (Nat.le_refl _) found.notBefore atStart)
    exact looked.after (Takes.pure _ _)
  · have stop : max (offset - search.maxSteps) (index + 1 - screen.pageSize) =
        index + 1 - screen.pageSize := by omega
    have missingAtStart := found.first.mono (Nat.le_refl _) (Nat.le_of_not_lt atStart)
    rw [stop]
    exact (takes_find_none onlyItems search.device missingAtStart).after
      (takes_findForward_some scrolls paged onlyItems search.maxSteps rewound missingAtStart
        found)

/-- A search that rewinds and then finds nothing in reach. -/
theorem takes_search_none (scrolls : screen.Scrolls search scroll description touched)
    (onlyItems : screen.OnlyItems target) {offset : Nat} (within : offset ≤ screen.last)
    (missing : NoneIn screen.items target offset (offset + screen.pageSize))
    (missingInReach : NoneIn screen.items target (offset - search.maxSteps)
      (min (offset - search.maxSteps + search.maxSteps) screen.last + screen.pageSize)) :
    screen.Takes (search.find scroll target description) offset none
      (stretch touched offset .backward (min search.maxSteps (offset + 1)) ++
        stretch touched (offset - search.maxSteps) .forward
          (min search.maxSteps (screen.last - (offset - search.maxSteps) + 1)))
      (min (offset - search.maxSteps + search.maxSteps) screen.last) := by
  have rewound : offset - search.maxSteps ≤ screen.last :=
    Nat.le_trans (Nat.sub_le ..) within
  have missingAtStart : NoneIn screen.items target (offset - search.maxSteps)
      (offset - search.maxSteps + screen.pageSize) :=
    missingInReach.mono (Nat.le_refl _) (by omega)
  refine (takes_find_none onlyItems search.device missing).after
    ((takes_toBeginning scrolls within).bind ?_)
  exact (takes_find_none onlyItems search.device missingAtStart).after
    (takes_findForward_none scrolls onlyItems search.maxSteps rewound missingInReach)

/-- What a search comes to: it finds the first item on the page that is meant, or else
the first one in reach after it has rewound, or else nothing. -/
theorem takes_search (scrolls : screen.Scrolls search scroll description touched)
    (paged : 0 < screen.pageSize) (onlyItems : screen.OnlyItems target) {offset : Nat}
    (within : offset ≤ screen.last) :
    let sought := search.find scroll target description
    let start := offset - search.maxSteps
    let stop := min (start + search.maxSteps) screen.last
    let rewound := stretch touched offset .backward (min search.maxSteps (offset + 1))
    (∃ index item, FirstIn screen.items target offset (offset + screen.pageSize) index item ∧
        screen.Takes sought offset (some item) [] offset) ∨
      (NoneIn screen.items target offset (offset + screen.pageSize) ∧
        ((∃ index item,
            FirstIn screen.items target start (stop + screen.pageSize) index item ∧
            screen.Takes sought offset (some item)
              (rewound ++
                stretch touched start .forward (index + 1 - screen.pageSize - start))
              (max start (index + 1 - screen.pageSize))) ∨
          (NoneIn screen.items target start (stop + screen.pageSize) ∧
            screen.Takes sought offset none
              (rewound ++
                stretch touched start .forward (min search.maxSteps (screen.last - start + 1)))
              stop))) := by
  intro sought start stop rewound
  rcases firstIn_or_noneIn screen.items target offset (offset + screen.pageSize) with
    found | missing
  · rcases found with ⟨index, item, found⟩
    exact .inl ⟨index, item, found, takes_search_here onlyItems _ found⟩
  · refine .inr ⟨missing, ?_⟩
    rcases firstIn_or_noneIn screen.items target start (stop + screen.pageSize) with
      found | missingInReach
    · rcases found with ⟨index, item, found⟩
      exact .inl ⟨index, item, found,
        takes_search_some scrolls paged onlyItems within missing found⟩
    · exact .inr ⟨missingInReach,
        takes_search_none scrolls onlyItems within missing missingInReach⟩

end Loops

end ListScreen

end Screenplay
