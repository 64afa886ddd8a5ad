import SetupBatch.Proofs.Feed

/-!
This module contains the feed as two columns, one of what has settled and one of what still runs.
Columns are edited without a boundary and without a count of the running lines. The feed holds the
columns one after the other, gives the same answers, and stays so under any edits.
-/

namespace SetupBatch

namespace Feed

inductive Edit where
  | begin (text : String) (task : Nat)
  | settle (id : LineId) (o : Outcome) (text : String)
  | add (text : String) (severity : Severity)

def edit (f : Feed) : Edit → Except Breach (Option LineId) × Feed
  | .begin text task => (.ok (some (f.begin text task).1), (f.begin text task).2.2)
  | .settle id o text =>
    match f.settle id o text with
    | .error breach => (.error breach, f)
    | .ok (_, g) => (.ok none, g)
  | .add text severity => (.ok none, (f.add text severity).2)

def editAll (f : Feed) (es : List Edit) : Feed := es.foldl (fun f e => (f.edit e).2) f

end Feed

/--
The settled lines in the order in which they settled, the running lines in the order in which they
began, the number of the next line, and the clock that is read when a line is made.
-/
structure Columns where
  settled : List Line := []
  running : List Line := []
  next : Nat := 0
  clock : Nat → Instant := fun _ => default

namespace Columns

def fresh (c : Columns) (text : String) (severity : Severity) (running : Bool)
    (task : Option Nat) : Line :=
  { id := ⟨c.next⟩, text, severity, running, task, created := c.clock c.next }

def begin (c : Columns) (text : String) (task : Nat) : Columns :=
  { c with running := c.running ++ [c.fresh text .info true (some task)], next := c.next + 1 }

def add (c : Columns) (text : String) (severity : Severity) : Columns :=
  { c with settled := c.settled ++ [c.fresh text severity false none], next := c.next + 1 }

def settle (c : Columns) (id : LineId) (o : Outcome) (text : String) : Except Breach Columns :=
  match c.running.find? (·.id == id) with
  | some l =>
    let moved := { l with running := false, severity := o.severity }
    let told := c.fresh text o.severity false l.task
    .ok { c with
      settled := c.settled ++ [moved, told], running := c.running.erase l, next := c.next + 1 }
  | none => .error (if c.settled.any (·.id == id) then .lineSettled id else .lineMissing id)

def edit (c : Columns) : Feed.Edit → Except Breach (Option LineId) × Columns
  | .begin text task => (.ok (some ⟨c.next⟩), c.begin text task)
  | .settle id o text =>
    match c.settle id o text with
    | .error breach => (.error breach, c)
    | .ok d => (.ok none, d)
  | .add text severity => (.ok none, c.add text severity)

def editAll (c : Columns) (es : List Feed.Edit) : Columns := es.foldl (fun c e => (c.edit e).2) c

/-! Lines settle for good, and those that run stand in the order in which they began. -/

/--
What edits leave of the columns `c`: whatever has settled, and in front of the lines begun since,
some of those that ran, in the same order.
-/
structure Kept (c d : Columns) : Prop where
  settled : c.settled <+: d.settled
  running : ∃ left begun, d.running = left ++ begun ∧ left.Sublist c.running ∧
    ∀ l ∈ begun, c.next ≤ l.id.number
  next : c.next ≤ d.next

variable {c d : Columns}

theorem Kept.refl (c : Columns) : c.Kept c := by
  refine ⟨List.prefix_refl _, ⟨c.running, [], ?_, List.Sublist.refl _, ?_⟩, Nat.le_refl _⟩
  . rw [List.append_nil]
  . simp

theorem Kept.trans {e : Columns} (h : c.Kept d) (h' : d.Kept e) : c.Kept e := by
  rcases h.running with ⟨left, begun, hd, hleft, hbegun⟩
  rcases h'.running with ⟨left', begun', he, hleft', hbegun'⟩
  rw [hd, List.sublist_append_iff] at hleft'
  rcases hleft' with ⟨ls, bs, rfl, hls, hbs⟩
  refine ⟨h.settled.trans h'.settled, ⟨ls, bs ++ begun', ?_, hls.trans hleft, ?_⟩,
    Nat.le_trans h.next h'.next⟩
  . rw [he, List.append_assoc]
  . intro l hl
    cases List.mem_append.1 hl with
    | inl hl => exact hbegun l (hbs.subset hl)
    | inr hl => exact Nat.le_trans h.next (hbegun' l hl)

theorem settle_eq_ok {id : LineId} {o : Outcome} {text : String}
    (h : c.settle id o text = .ok d)
    : ∃ l ∈ c.running, c.settled <+: d.settled ∧ d.running = c.running.erase l ∧
        d.next = c.next + 1 := by
  unfold settle at h
  split at h
  . next l hl =>
    rw [Except.ok.injEq] at h
    rw [← h]
    exact ⟨l, List.mem_of_find?_eq_some hl, List.prefix_append _ _, rfl, rfl⟩
  . simp at h

theorem kept_edit (c : Columns) (e : Feed.Edit) : c.Kept (c.edit e).2 := by
  cases e with
  | begin text task =>
    refine ⟨List.prefix_refl _, ⟨c.running, _, rfl, List.Sublist.refl _, ?_⟩, Nat.le_succ _⟩
    intro l hl
    rw [List.mem_singleton.1 hl]
    exact Nat.le_refl _
  | settle id o text =>
    simp only [edit]
    split
    . exact Kept.refl c
    . next d hd =>
      rcases settle_eq_ok hd with ⟨l, -, hsettled, hrunning, hnext⟩
      refine ⟨hsettled, ⟨d.running, [], ?_, ?_, ?_⟩, ?_⟩
      . rw [List.append_nil]
      . rw [hrunning]
        exact List.erase_sublist
      . simp
      . rw [hnext]
        exact Nat.le_succ _
  | add text severity =>
    refine ⟨List.prefix_append _ _, ⟨c.running, [], ?_, List.Sublist.refl _, ?_⟩, Nat.le_succ _⟩
    . rw [List.append_nil]
      rfl
    . simp

theorem kept_editAll (c : Columns) (es : List Feed.Edit) : c.Kept (c.editAll es) := by
  induction es generalizing c with
  | nil => exact Kept.refl c
  | cons e es ih => exact (kept_edit c e).trans (ih _)

structure InOrder (c : Columns) : Prop where
  ordered : (c.running.map (·.id.number)).Pairwise (· < ·)
  given : ∀ l ∈ c.running, l.id.number < c.next

theorem InOrder.edit (h : c.InOrder) (e : Feed.Edit) : (c.edit e).2.InOrder := by
  cases e with
  | begin text task =>
    constructor
    . simp only [Columns.edit, Columns.begin]
      rw [List.map_append, List.pairwise_append]
      refine ⟨h.ordered, List.pairwise_singleton _ _, ?_⟩
      intro n hn m hm
      rcases List.mem_map.1 hn with ⟨l, hl, rfl⟩
      rw [List.map_singleton, List.mem_singleton] at hm
      rw [hm]
      exact h.given l hl
    . intro l hl
      cases List.mem_append.1 hl with
      | inl hl => exact Nat.lt_succ_of_lt (h.given l hl)
      | inr hl =>
        rw [List.mem_singleton.1 hl]
        exact Nat.lt_succ_self _
  | settle id o text =>
    simp only [Columns.edit]
    split
    . exact h
    . next d hd =>
      rcases settle_eq_ok hd with ⟨l, -, -, hrunning, hnext⟩
      constructor
      . rw [hrunning]
        exact h.ordered.sublist (List.erase_sublist.map _)
      . intro l' hl'
        rw [hrunning] at hl'
        rw [hnext]
        exact Nat.lt_succ_of_lt (h.given l' (List.mem_of_mem_erase hl'))
  | add text severity =>
    exact ⟨h.ordered, fun l hl => Nat.lt_succ_of_lt (h.given l hl)⟩

theorem InOrder.editAll (h : c.InOrder) (es : List Feed.Edit) : (c.editAll es).InOrder := by
  induction es generalizing c with
  | nil => exact h
  | cons e es ih => exact ih (h.edit e)

end Columns

namespace Feed

def columns (f : Feed) : Columns :=
  { settled := f.settled, running := f.running, next := f.next, clock := f.clock }

variable {f : Feed}

theorem Sound.edit (h : f.Sound) (e : Edit) : (f.edit e).2.Sound := by
  cases e with
  | begin text task => exact h.begin text task
  | settle id o text =>
    simp only [Feed.edit]
    split
    . exact h
    . next cs g hs => exact h.settle hs
  | add text severity => exact h.add text severity

theorem Sound.editAll (h : f.Sound) (es : List Edit) : (f.editAll es).Sound := by
  induction es generalizing f with
  | nil => exact h
  | cons e es ih => exact ih (h.edit e)

/-! A line that runs is found by its id in either view; where none has the id, both refuse. -/

theorem id_ne_of_running (h : f.Sound) {xs ys : List Line} {line : Line}
    (hrun : f.running = xs ++ line :: ys) : ∀ l ∈ xs, l.id ≠ line.id := by
  intro l hl
  have hids := h.ids
  rw [← settled_append_running, hrun, List.map_append, List.nodup_append, List.map_append,
    List.nodup_append] at hids
  exact hids.2.1.2.2 l.id (List.mem_map_of_mem hl) line.id (by simp)

theorem settle_eq_error (h : f.Sound) {id : LineId} (hid : ∀ l ∈ f.running, l.id ≠ id)
    (o : Outcome) (text : String)
    : f.settle id o text =
        .error (if f.settled.any (·.id == id) then .lineSettled id else .lineMissing id) := by
  unfold settle
  split
  . next hfind =>
    rw [List.findIdx?_eq_none_iff] at hfind
    have hany : f.settled.any (·.id == id) = false := by
      rw [List.any_eq_false]
      intro l hl
      simpa using hfind l (mem_lines.2 (.inl hl))
    simp [hany]
  . next position hfind =>
    rcases List.findIdx?_eq_some_iff_getElem.1 hfind with ⟨hlt, hmatch, -⟩
    rw [List.getElem?_eq_getElem hlt]
    have hmem : f.lines[position] ∈ f.lines := List.getElem_mem hlt
    have hline : f.lines[position].id = id := by simpa using hmatch
    cases mem_lines.1 hmem with
    | inl hs =>
      have hany : f.settled.any (·.id == id) = true := by
        rw [List.any_eq_true]
        exact ⟨_, hs, hmatch⟩
      simp [h.settled _ hs, hany]
    | inr hr => exact absurd hline (hid _ hr)

theorem columns_settle_of_running (h : f.Sound) {xs ys : List Line} {line : Line}
    (hrun : f.running = xs ++ line :: ys) (o : Outcome) (text : String)
    : f.columns.settle line.id o text = .ok { f.columns with
        settled := f.settled ++ [line.settledAs o, f.closing line o text], running := xs ++ ys
        next := f.next + 1 } := by
  have hne := id_ne_of_running h hrun
  have hcolumn : f.columns.running = xs ++ line :: ys := hrun
  have hfind : f.columns.running.find? (·.id == line.id) = some line := by
    rw [hcolumn, List.find?_append, List.find?_eq_none.2, List.find?_cons_of_pos]
    . rfl
    . simp
    . simpa using hne
  have herase : f.columns.running.erase line = xs ++ ys := by
    rw [hcolumn, List.erase_append_right, List.erase_cons_head]
    intro hmem
    exact hne _ hmem rfl
  simp only [Columns.settle, hfind, herase]
  rfl

theorem columns_settle (h : f.Sound) (id : LineId) (o : Outcome) (text : String)
    : f.columns.settle id o text = (f.settle id o text).map fun r => r.2.columns := by
  -- the column is searched for the number, and the feed finds the line at its position
  by_cases hid : ∀ l ∈ f.running, l.id ≠ id
  . have hfind : f.columns.running.find? (·.id == id) = none := by
      rw [List.find?_eq_none]
      intro l hl
      simpa using hid l hl
    rw [settle_eq_error h hid]
    simp only [Columns.settle, hfind]
    rfl
  . simp only [ne_eq, not_forall, not_not] at hid
    rcases hid with ⟨line, hmem, rfl⟩
    rcases List.append_of_mem hmem with ⟨xs, ys, hrun⟩
    have hs := settle_eq h hrun o text
    have hparts := parts_settle h hrun hs
    rw [columns_settle_of_running h hrun, hs]
    simp only [Except.map, columns, hparts.1, hparts.2]

theorem columns_edit (h : f.Sound) (e : Edit)
    : f.columns.edit e = ((f.edit e).1, (f.edit e).2.columns) := by
  cases e with
  | begin text task =>
    have hparts := parts_begin h text task
    simp only [Columns.edit, Columns.begin, edit, columns, hparts.1, hparts.2]
    rfl
  | settle id o text =>
    simp only [Columns.edit, edit, columns_settle h]
    cases f.settle id o text with
    | error breach => rfl
    | ok r => rfl
  | add text severity =>
    have hparts := parts_add h text severity
    have hnext : (f.add text severity).2.next = f.next + 1 := by rw [add_eq h]
    simp only [Columns.edit, Columns.add, edit, columns, hparts.1, hparts.2, hnext]
    rfl

theorem columns_editAll (h : f.Sound) (es : List Edit)
    : (f.editAll es).columns = f.columns.editAll es := by
  induction es generalizing f with
  | nil => rfl
  | cons e es ih =>
    have hstep := congrArg Prod.snd (columns_edit h e)
    unfold editAll Columns.editAll
    rw [List.foldl_cons, List.foldl_cons, hstep]
    exact ih (h.edit e)

theorem settle_eq_ok_iff (h : f.Sound) (id : LineId) (o : Outcome) (text : String)
    : (∃ r, f.settle id o text = .ok r) ↔ ∃ l ∈ f.running, l.id = id := by
  constructor
  . intro hr
    rcases hr with ⟨r, hr⟩
    exact mem_running_of_settle h hr
  . intro hl
    rcases hl with ⟨line, hmem, rfl⟩
    rcases List.append_of_mem hmem with ⟨xs, ys, hrun⟩
    exact ⟨_, settle_eq h hrun o text⟩

theorem edit_settle_of_error {id : LineId} {o : Outcome} {text : String} {breach : Breach}
    (hs : f.settle id o text = .error breach)
    : breach.fault.isInvariantViolation = true ∧
        f.edit (.settle id o text) = (.error breach, f) := by
  constructor
  . rfl
  . simp only [edit, hs]

/--
After any edits of an empty feed its lines are the two columns that the same edits make on their
own, one after the other, and every further edit gets the same answer from both. A line settles
exactly if it runs; a refused edit is a breach, and changes nothing.
-/
theorem columns_of_edits (clock : Nat → Instant) (es : List Edit)
    : let f := ({ clock } : Feed).editAll es
      let c := ({ clock } : Columns).editAll es
      f.Sound ∧ f.lines = f.settled ++ f.running ∧ f.running.length = f.live ∧
      f.columns = c ∧
      (∀ e, c.edit e = ((f.edit e).1, (f.edit e).2.columns)) ∧
      (∀ id o text, (∃ r, f.settle id o text = .ok r) ↔ ∃ l ∈ f.running, l.id = id) ∧
      (∀ id o text breach, f.settle id o text = .error breach →
        breach.fault.isInvariantViolation = true ∧
          f.edit (.settle id o text) = (.error breach, f)) ∧
      c.InOrder ∧ ∀ more, c.Kept (f.editAll more).columns := by
  intro f c
  have hsound : f.Sound := (Sound.empty clock).editAll es
  have hcolumns : f.columns = c := columns_editAll (Sound.empty clock) es
  refine ⟨hsound, (settled_append_running f).symm, length_running hsound.live_le, hcolumns, ?_,
    settle_eq_ok_iff hsound, ?_, ?_, ?_⟩
  . intro e
    rw [← hcolumns, columns_edit hsound]
  . intro id o text breach hs
    exact edit_settle_of_error hs
  . have hempty : ({ clock } : Columns).InOrder := ⟨List.Pairwise.nil, by simp⟩
    exact hempty.editAll es
  . intro more
    rw [columns_editAll hsound, hcolumns]
    exact Columns.kept_editAll c more

example
    : let f := ({} : Feed).editAll
        [.begin "a" 0, .begin "b" 1, .begin "c" 2, .settle ⟨1⟩ .failed "b failed",
          .settle ⟨1⟩ .failed "again", .add "note" .info]
      (f.settled.map (·.text), f.running.map (·.text)) =
        (["b", "b failed", "note"], ["a", "c"]) := by
  decide

end Feed

end SetupBatch
