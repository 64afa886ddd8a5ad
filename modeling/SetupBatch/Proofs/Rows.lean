import Mathlib.Data.List.DropRight
import Mathlib.Data.Multiset.AddSub
import SetupBatch.Proofs.Telling

/-!
This module contains the verification of the notices of a board as two rows, one behind the other.
Reports put their notices in front, requests add theirs at the back, and a removal takes away the
first notice of its id. The stream tells what comes and what goes, but not where.
-/

namespace SetupBatch

inductive Errand where
  | raise (notice : Notice)
  | post (notice : Notice)
  | withdraw (id : NoticeId)
  | clear

namespace Errand

def raised? : Errand → Option Notice
  | .raise notice => some notice
  | _ => none

def posted? : Errand → Option Notice
  | .post notice => some notice
  | _ => none

def isClear : Errand → Bool
  | .clear => true
  | _ => false

def sinceClear (h : List Errand) : List Errand := h.rtakeWhile (! ·.isClear)

def raisedIn (h : List Errand) : List Notice := h.filterMap raised?

def postedIn (h : List Errand) : List Notice := h.filterMap posted?

theorem raisedIn_append (xs ys : List Errand) : raisedIn (xs ++ ys) = raisedIn xs ++ raisedIn ys :=
  List.filterMap_append

theorem postedIn_append (xs ys : List Errand) : postedIn (xs ++ ys) = postedIn xs ++ postedIn ys :=
  List.filterMap_append

variable {h : List Errand} {e : Errand}

theorem sinceClear_concat (he : e.isClear = false)
    : sinceClear (h ++ [e]) = sinceClear h ++ [e] := by
  apply List.rtakeWhile_concat_pos
  simp [he]

theorem sinceClear_concat_clear (h : List Errand) : sinceClear (h ++ [.clear]) = [] := by
  apply List.rtakeWhile_concat_neg
  simp [isClear]

end Errand

/--
The row of the notices that reports have raised, the latest first, the row of those that were asked
for, in the order of the requests, and what was removed from the rows one by one.
-/
structure Rows where
  raised : List Notice := []
  posted : List Notice := []
  removed : List Notice := []

namespace Rows

def notices (r : Rows) : List Notice := r.raised ++ r.posted

def withdraw (r : Rows) (id : NoticeId) : Rows :=
  match r.raised.find? (·.id == id) with
  | some n => { r with raised := r.raised.eraseP (·.id == id), removed := r.removed ++ [n] }
  | none =>
    match r.posted.find? (·.id == id) with
    | some n => { r with posted := r.posted.eraseP (·.id == id), removed := r.removed ++ [n] }
    | none => r

def serve (r : Rows) : Errand → Rows
  | .raise notice => { r with raised := notice :: r.raised }
  | .post notice => { r with posted := r.posted ++ [notice] }
  | .withdraw id => r.withdraw id
  | .clear => {}

def ofErrands (h : List Errand) : Rows := h.foldl serve {}

theorem ofErrands_concat (h : List Errand) (e : Errand)
    : ofErrands (h ++ [e]) = (ofErrands h).serve e := by
  unfold ofErrands
  rw [List.foldl_append]
  rfl

structure Holds (h : List Errand) (r : Rows) : Prop where
  raised : r.raised.Sublist (Errand.raisedIn h).reverse
  posted : r.posted.Sublist (Errand.postedIn h)
  all : (r.notices ++ r.removed).Perm (Errand.raisedIn h ++ Errand.postedIn h)

variable {h : List Errand} {r : Rows}

theorem Holds.nil : Holds [] {} := ⟨List.Sublist.refl _, List.Sublist.refl _, .refl _⟩

theorem Holds.raise (hr : r.Holds h) (n : Notice)
    : (r.serve (.raise n)).Holds (h ++ [.raise n]) := by
  have hraised : Errand.raisedIn (h ++ [.raise n]) = Errand.raisedIn h ++ [n] :=
    Errand.raisedIn_append _ _
  have hposted : Errand.postedIn (h ++ [.raise n]) = Errand.postedIn h :=
    (Errand.postedIn_append _ _).trans (List.append_nil _)
  constructor
  . rw [hraised, List.reverse_append]
    exact hr.raised.cons_cons n
  . rw [hposted]
    exact hr.posted
  . rw [hraised, hposted, List.append_assoc]
    exact (hr.all.cons n).trans List.perm_middle.symm

theorem Holds.post (hr : r.Holds h) (n : Notice)
    : (r.serve (.post n)).Holds (h ++ [.post n]) := by
  have hraised : Errand.raisedIn (h ++ [.post n]) = Errand.raisedIn h :=
    (Errand.raisedIn_append _ _).trans (List.append_nil _)
  have hposted : Errand.postedIn (h ++ [.post n]) = Errand.postedIn h ++ [n] :=
    Errand.postedIn_append _ _
  constructor
  . rw [hraised]
    exact hr.raised
  . rw [hposted]
    exact hr.posted.append (List.Sublist.refl _)
  . rw [hraised, hposted, ← List.append_assoc]
    refine List.Perm.trans ?_ (hr.all.append_right [n])
    show (r.raised ++ (r.posted ++ [n]) ++ r.removed).Perm _
    unfold notices
    rw [← List.append_assoc, List.append_assoc, List.append_assoc (r.raised ++ r.posted)]
    exact List.perm_append_comm.append_left _

theorem withdraw_cases (r : Rows) (id : NoticeId)
    : (∃ n, r.notices.find? (·.id == id) = some n ∧
          (r.withdraw id).notices = r.notices.eraseP (·.id == id) ∧
          (r.withdraw id).raised.Sublist r.raised ∧ (r.withdraw id).posted.Sublist r.posted ∧
          (r.withdraw id).removed = r.removed ++ [n]) ∨
        (r.notices.find? (·.id == id) = none ∧ r.withdraw id = r) := by
  unfold withdraw notices
  rw [List.find?_append]
  cases hraised : r.raised.find? (·.id == id) with
  | some n =>
    have hmem := List.mem_of_find?_eq_some hraised
    have hid := List.find?_some hraised
    refine .inl ⟨n, rfl, ?_, List.eraseP_sublist, List.Sublist.refl _, rfl⟩
    exact (List.eraseP_append_left (p := fun m => m.id == id) hid _ hmem).symm
  | none =>
    rw [List.find?_eq_none] at hraised
    cases hposted : r.posted.find? (·.id == id) with
    | some n =>
      refine .inl ⟨n, rfl, ?_, List.Sublist.refl _, List.eraseP_sublist, rfl⟩
      exact (List.eraseP_append_right _ hraised).symm
    | none => exact .inr ⟨rfl, rfl⟩

theorem eraseP_of_find? {p : Notice → Bool} {ns : List Notice} {n : Notice}
    (h : ns.find? p = some n)
    : ∃ xs ys, ns = xs ++ n :: ys ∧ p n = true ∧ (∀ x ∈ xs, p x = false) ∧
        ns.eraseP p = xs ++ ys := by
  rcases List.find?_eq_some_iff_append.1 h with ⟨hn, xs, ys, rfl, hxs⟩
  refine ⟨xs, ys, rfl, hn, by simpa using hxs, ?_⟩
  rw [List.eraseP_append_right _ (by simpa using hxs), List.eraseP_cons_of_pos hn]

theorem perm_eraseP {p : Notice → Bool} {ns : List Notice} {n : Notice} (h : ns.find? p = some n)
    : ns.Perm (n :: ns.eraseP p) := by
  rcases eraseP_of_find? h with ⟨xs, ys, heq, -, -, herase⟩
  rw [herase, heq]
  exact List.perm_middle

theorem Holds.withdraw (hr : r.Holds h) (id : NoticeId)
    : (r.serve (.withdraw id)).Holds (h ++ [.withdraw id]) := by
  have hraised : Errand.raisedIn (h ++ [.withdraw id]) = Errand.raisedIn h :=
    (Errand.raisedIn_append _ _).trans (List.append_nil _)
  have hposted : Errand.postedIn (h ++ [.withdraw id]) = Errand.postedIn h :=
    (Errand.postedIn_append _ _).trans (List.append_nil _)
  show (r.withdraw id).Holds _
  rcases r.withdraw_cases id with ⟨n, hfind, hall, hfront, hback, hremoved⟩ | ⟨-, heq⟩
  . constructor
    . rw [hraised]
      exact hfront.trans hr.raised
    . rw [hposted]
      exact hback.trans hr.posted
    . rw [hraised, hposted, hall, hremoved]
      refine List.Perm.trans ?_ hr.all
      refine List.Perm.trans ?_ ((perm_eraseP hfind).symm.append_right r.removed)
      rw [← List.append_assoc]
      exact List.perm_append_singleton _ _
  . rw [heq]
    exact ⟨hraised ▸ hr.raised, hposted ▸ hr.posted, hraised ▸ hposted ▸ hr.all⟩

theorem holds_ofErrands (h : List Errand)
    : (ofErrands h).Holds (Errand.sinceClear h) := by
  induction h using List.reverseRecOn with
  | nil => exact Holds.nil
  | append_singleton h e ih =>
    rw [ofErrands_concat]
    cases e with
    | raise notice =>
      rw [Errand.sinceClear_concat rfl]
      exact ih.raise notice
    | post notice =>
      rw [Errand.sinceClear_concat rfl]
      exact ih.post notice
    | withdraw id =>
      rw [Errand.sinceClear_concat rfl]
      exact ih.withdraw id
    | clear =>
      rw [Errand.sinceClear_concat_clear]
      exact Holds.nil

end Rows

/-! The stream tells what comes and what goes. -/

namespace Event

def added? : Event → Option Notice
  | .noticeAdded notice => some notice
  | _ => none

def removed? : Event → Option Notice
  | .noticeRemoved notice => some notice
  | _ => none

def addedIn (es : List Event) : List Notice := es.filterMap added?

def removedIn (es : List Event) : List Notice := es.filterMap removed?

def keep? (ns : Multiset Notice) : Event → Option (Multiset Notice)
  | .noticeAdded notice => some (notice ::ₘ ns)
  | .noticeRemoved notice => if notice ∈ ns then some (ns.erase notice) else none
  | _ => some ns

def keepAll? (ns : Multiset Notice) (es : List Event) : Option (Multiset Notice) :=
  es.foldlM keep? ns

variable {es : List Event} {e : Event} {n : Notice} {ns ms : Multiset Notice}

theorem addedIn_append (xs ys : List Event) : addedIn (xs ++ ys) = addedIn xs ++ addedIn ys :=
  List.filterMap_append

theorem removedIn_append (xs ys : List Event)
    : removedIn (xs ++ ys) = removedIn xs ++ removedIn ys :=
  List.filterMap_append

theorem keepAll?_append (ns : Multiset Notice) (xs ys : List Event)
    : keepAll? ns (xs ++ ys) = (keepAll? ns xs).bind fun ms => keepAll? ms ys := by
  unfold keepAll?
  rw [List.foldlM_append]
  rfl

theorem keepAll?_cons (ns : Multiset Notice) (e : Event) (es : List Event)
    : keepAll? ns (e :: es) = (keep? ns e).bind fun ms => keepAll? ms es := by
  rfl

theorem balance_keep? (h : keep? ns e = some ms)
    : ms + removedIn [e] = (ns + addedIn [e] : Multiset Notice) := by
  cases e with
  | noticeAdded n =>
    cases h
    show n ::ₘ ns + 0 = ns + {n}
    rw [add_zero, add_comm, Multiset.singleton_add]
  | noticeRemoved n =>
    rcases Option.ite_none_right_eq_some.1 h with ⟨hmem, herase⟩
    cases herase
    show ns.erase n + {n} = ns + 0
    rw [add_zero, add_comm, Multiset.singleton_add, Multiset.cons_erase hmem]
  | _ =>
    cases h
    rfl

theorem balance_keepAll? (h : keepAll? ns es = some ms)
    : ms + removedIn es = (ns + addedIn es : Multiset Notice) := by
  induction es generalizing ns with
  | nil =>
    cases h
    rfl
  | cons e es ih =>
    rw [keepAll?_cons] at h
    rcases Option.bind_eq_some_iff.1 h with ⟨ns', hkeep, hrest⟩
    rw [← List.singleton_append, removedIn_append, addedIn_append, ← Multiset.coe_add,
      ← Multiset.coe_add]
    calc ms + (removedIn [e] + removedIn es : Multiset Notice)
        = ms + removedIn es + removedIn [e] := by rw [← add_assoc, add_right_comm]
      _ = ns' + addedIn es + removedIn [e] := by rw [ih hrest]
      _ = ns + addedIn [e] + addedIn es := by rw [add_right_comm, balance_keep? hkeep]
      _ = ns + (addedIn [e] + addedIn es : Multiset Notice) := by rw [add_assoc]

theorem mem_of_removed (h : keepAll? 0 (es ++ [.noticeRemoved n]) = some ns)
    : n ∈ (addedIn es - removedIn es : Multiset Notice) := by
  rw [keepAll?_append] at h
  rcases Option.bind_eq_some_iff.1 h with ⟨ms, hms, hkeep⟩
  have hbalance := balance_keepAll? hms
  rw [zero_add] at hbalance
  rw [← hbalance, Multiset.add_sub_cancel_right]
  by_contra hnot
  simp [keepAll?, keep?, hnot] at hkeep

theorem exists_keepAll?_of_isPrefix {xs : List Event} (h : keepAll? ns es = some ms)
    (hxs : xs <+: es) : ∃ ms', keepAll? ns xs = some ms' := by
  rcases hxs with ⟨ys, rfl⟩
  rw [keepAll?_append] at h
  rcases Option.bind_eq_some_iff.1 h with ⟨ms', hms', -⟩
  exact ⟨ms', hms'⟩

theorem keepAll?_of_forall (h : ∀ e ∈ es, keep? ns e = some ns) : keepAll? ns es = some ns := by
  induction es with
  | nil => rfl
  | cons e es ih =>
    rw [List.forall_mem_cons] at h
    rw [keepAll?_cons, h.1, Option.bind_some, ih h.2]

theorem keepAll?_removed (ns : List Notice) : keepAll? ns (ns.map .noticeRemoved) = some 0 := by
  induction ns with
  | nil => rfl
  | cons n ns ih =>
    rw [List.map_cons, keepAll?_cons, keep?, if_pos (by simp), Option.bind_some,
      Multiset.coe_erase, List.erase_cons_head, ih]

theorem keepAll?_find? {p : Notice → Bool} {ns : List Notice} (h : ns.find? p = some n)
    : keepAll? ns [.noticeRemoved n] = some (ns.eraseP p : Multiset Notice) := by
  have hcons : (ns : Multiset Notice) = n ::ₘ (ns.eraseP p : Multiset Notice) :=
    Multiset.coe_eq_coe.2 (Rows.perm_eraseP h)
  rw [keepAll?_cons, keep?, hcons, if_pos (Multiset.mem_cons_self _ _), Multiset.erase_cons_head]
  rfl

end Event

namespace Board

def errand? (b : Board) : Operation → Option Errand
  | .finish t _ o detail =>
    match b.tally.report t o with
    | .ok _ => (b.notice? t o detail).map .raise
    | .error _ => none
  | .request notice .add => some (.post notice)
  | .request notice .remove => some (.withdraw notice.id)
  | .clearNotices => some .clear
  | .beginPass _ | .endPass | .start _ | .say _ _ | .takeFailed => none

def errands (b : Board) : List Operation → List Errand
  | [] => []
  | op :: ops => (b.errand? op).toList ++ (b.carryOut op).errands ops

variable {b : Board}

theorem notices_finish (b : Board) (t : Ticket) (line : LineId) (o : Outcome)
    (detail : Option String)
    : (b.finish t line o detail).2.notices =
        ((b.errand? (.finish t line o detail)).bind Errand.raised?).toList ++ b.notices := by
  simp only [errand?, finish]
  cases b.tally.report t o with
  | error breach => rfl
  | ok tally =>
    have hnotices := notices_raiseFor { b with tally } t o detail
    have hnotice : ((b.notice? t o detail).map Errand.raise).bind Errand.raised? =
        b.notice? t o detail := by
      cases b.notice? t o detail <;> rfl
    dsimp only
    rw [hnotice]
    split
    . exact hnotices
    . exact hnotices

theorem notices_start (b : Board) (t : Ticket) : (b.start t).2.notices = b.notices := by
  unfold start
  split <;> rfl

theorem notices_withdraw (b : Board) (id : NoticeId)
    : (b.withdraw id).notices = b.notices.eraseP (·.id == id) := by
  unfold withdraw
  split
  . next hfind =>
    rw [List.find?_eq_none] at hfind
    exact (List.eraseP_of_forall_not hfind).symm
  . rfl

theorem notices_carryOut {r : Rows} (hr : b.notices = r.notices) (op : Operation)
    : (b.carryOut op).notices = ((b.errand? op).toList.foldl Rows.serve r).notices := by
  cases op with
  | endPass =>
    simp only [carryOut, endPass]
    split <;> exact hr
  | start t => exact (notices_start b t).trans hr
  | finish t line o detail =>
    refine (notices_finish b t line o detail).trans ?_
    simp only [errand?]
    cases b.tally.report t o with
    | error breach => exact hr
    | ok tally =>
      cases b.notice? t o detail with
      | none => exact hr
      | some notice => exact congrArg (notice :: ·) hr
  | request notice kind =>
    cases kind with
    | add => exact (congrArg (· ++ [notice]) hr).trans (List.append_assoc _ _ _)
    | remove =>
      show (b.withdraw notice.id).notices = (r.withdraw notice.id).notices
      rw [notices_withdraw, hr]
      rcases r.withdraw_cases notice.id with ⟨n, -, hall, -⟩ | ⟨hnone, heq⟩
      . exact hall.symm
      . rw [List.find?_eq_none] at hnone
        rw [heq, List.eraseP_of_forall_not hnone]
  | clearNotices => rfl
  | _ => exact hr

theorem notices_carryOutAll (ops : List Operation) {r : Rows} (hr : b.notices = r.notices)
    : (b.carryOutAll ops).notices = ((b.errands ops).foldl Rows.serve r).notices := by
  induction ops generalizing b r with
  | nil => exact hr
  | cons op ops ih =>
    rw [errands, List.foldl_append]
    exact ih (notices_carryOut hr op)

open Event

theorem keepAll?_closing (b : Board) (tally : Tally) (t : Ticket) (line : LineId) (o : Outcome)
    (ns : Multiset Notice) : keepAll? ns (b.closing tally t line o) = some ns := by
  apply keepAll?_of_forall
  intro e he
  rcases mem_closing he with ⟨change, rfl⟩ | ⟨failed, rfl⟩
  . cases change <;> rfl
  . rfl

theorem keepAll?_telling (b : Board) (op : Operation)
    : keepAll? b.notices (b.telling op) = some ((b.carryOut op).notices : Multiset Notice) := by
  cases op with
  | endPass =>
    simp only [telling, carryOut, endPass]
    split <;> rfl
  | start t =>
    simp only [carryOut, notices_start, telling]
    cases b.tally.start t.index with
    | error breach => rfl
    | ok tally =>
      simp only [announcement]
      split <;> rfl
  | finish t line o detail =>
    simp only [carryOut, notices_finish, telling, errand?]
    cases b.tally.report t o with
    | error breach => rfl
    | ok tally =>
      rw [keepAll?_append]
      cases b.notice? t o detail with
      | none => exact keepAll?_closing b tally t line o _
      | some notice => exact keepAll?_closing b tally t line o _
  | request notice kind =>
    cases kind with
    | add =>
      have hperm : (b.notices ++ [notice]).Perm (notice :: b.notices) :=
        List.perm_append_singleton _ _
      exact congrArg some (Multiset.coe_eq_coe.2 hperm.symm)
    | remove =>
      show keepAll? _ ((b.notices.find? _).toList.map _) =
        some ((b.withdraw notice.id).notices : Multiset Notice)
      rw [notices_withdraw]
      cases hfind : b.notices.find? (·.id == notice.id) with
      | none =>
        rw [List.find?_eq_none] at hfind
        rw [List.eraseP_of_forall_not hfind]
        rfl
      | some n => exact keepAll?_find? hfind
  | clearNotices => exact keepAll?_removed b.notices
  | _ => rfl

theorem keepAll?_carryOutAll (hb : b.stream.Tells b.feed)
    (hkept : keepAll? 0 b.told = some (b.notices : Multiset Notice)) (ops : List Operation)
    : keepAll? 0 (b.carryOutAll ops).told =
        some ((b.carryOutAll ops).notices : Multiset Notice) := by
  induction ops generalizing b with
  | nil => exact hkept
  | cons op ops ih =>
    apply ih (tells_carryOut hb op)
    rw [told_carryOut hb.heard, keepAll?_append, hkept, Option.bind_some, keepAll?_telling]

theorem removedIn_closing (b : Board) (tally : Tally) (t : Ticket) (line : LineId) (o : Outcome)
    : removedIn (b.closing tally t line o) = [] := by
  unfold removedIn
  rw [List.filterMap_eq_nil_iff]
  intro e he
  rcases mem_closing he with ⟨change, rfl⟩ | ⟨failed, rfl⟩
  . cases change <;> rfl
  . rfl

theorem removed_carryOut {r : Rows} (hr : b.notices = r.notices) (op : Operation)
    : ∃ ns : List Notice, r.removed ++ removedIn (b.telling op) =
        ns ++ ((b.errand? op).toList.foldl Rows.serve r).removed := by
  cases op with
  | endPass =>
    refine ⟨[], ?_⟩
    simp only [telling]
    split <;> exact List.append_nil _
  | start t =>
    refine ⟨[], ?_⟩
    simp only [telling]
    cases b.tally.start t.index with
    | error breach => exact List.append_nil _
    | ok tally =>
      simp only [announcement]
      split <;> exact List.append_nil _
  | finish t line o detail =>
    refine ⟨[], ?_⟩
    simp only [telling, errand?]
    cases b.tally.report t o with
    | error breach => exact List.append_nil _
    | ok tally =>
      rw [removedIn_append, removedIn_closing]
      cases b.notice? t o detail <;> exact List.append_nil _
  | request notice kind =>
    refine ⟨[], ?_⟩
    cases kind with
    | add => exact List.append_nil _
    | remove =>
      show r.removed ++ removedIn ((b.notices.find? _).toList.map _) =
        (r.withdraw notice.id).removed
      rw [hr]
      rcases r.withdraw_cases notice.id with ⟨n, hfind, -, -, -, hremoved⟩ | ⟨hnone, heq⟩
      . rw [hfind, hremoved]
        rfl
      . rw [hnone, heq]
        exact List.append_nil _
  | clearNotices => exact ⟨_, (List.append_nil _).symm⟩
  | _ => exact ⟨[], List.append_nil _⟩

theorem removed_carryOutAll (hb : b.stream.Tells b.feed) {r : Rows} (hr : b.notices = r.notices)
    (hremoved : r.removed <:+ removedIn b.told) (ops : List Operation)
    : ((b.errands ops).foldl Rows.serve r).removed <:+ removedIn (b.carryOutAll ops).told := by
  induction ops generalizing b r with
  | nil => exact hremoved
  | cons op ops ih =>
    rw [errands, List.foldl_append]
    apply ih (tells_carryOut hb op) (notices_carryOut hr op)
    rcases hremoved with ⟨xs, hxs⟩
    rcases removed_carryOut hr op with ⟨ns, hns⟩
    refine ⟨xs ++ ns, ?_⟩
    rw [List.append_assoc, ← hns, ← List.append_assoc, hxs, told_carryOut hb.heard,
      removedIn_append]

theorem withdraw_cases (hb : b.stream.heard = true) (notice : Notice)
    : (∃ xs n ys, b.notices = xs ++ n :: ys ∧ n.id = notice.id ∧ (∀ x ∈ xs, x.id ≠ notice.id) ∧
          b.request notice .remove =
            { b with notices := xs ++ ys, stream := b.stream.tell (.noticeRemoved n) } ∧
          (b.request notice .remove).told = b.told ++ [.noticeRemoved n]) ∨
        (∀ n ∈ b.notices, n.id ≠ notice.id) ∧ b.request notice .remove = b := by
  have htold : (b.request notice .remove).told = _ := told_carryOut hb (.request notice .remove)
  simp only [telling] at htold
  simp only [request, withdraw] at htold ⊢
  cases hfind : b.notices.find? (·.id == notice.id) with
  | none =>
    rw [List.find?_eq_none] at hfind
    exact .inr ⟨fun n hn => by simpa using hfind n hn, rfl⟩
  | some n =>
    rcases Rows.eraseP_of_find? hfind with ⟨xs, ys, hnotices, hid, hxs, herase⟩
    rw [hfind] at htold
    refine .inl ⟨xs, n, ys, hnotices, by simpa using hid, fun x hx => by simpa using hxs x hx, ?_,
      htold⟩
    dsimp only
    rw [herase]
    rfl

/--
The notices of a board after these errands. They stand in two rows, which hold what the errands have
brought since the last clearing; what was removed since then is what the stream says. A removal
takes away the first notice of its id, or does nothing if there is none, and a clearing takes all of
them. What is there has been told and has not been told to go, and nothing else ever goes.
-/
structure Tended (h : List Errand) (b : Board) : Prop where
  rows : b.notices = (Rows.ofErrands h).raised ++ (Rows.ofErrands h).posted
  holds : (Rows.ofErrands h).Holds (Errand.sinceClear h)
  removed : (Rows.ofErrands h).removed <:+ removedIn b.told
  withdraw : ∀ notice : Notice,
    (∃ xs n ys, b.notices = xs ++ n :: ys ∧ n.id = notice.id ∧ (∀ x ∈ xs, x.id ≠ notice.id) ∧
      b.request notice .remove =
        { b with notices := xs ++ ys, stream := b.stream.tell (.noticeRemoved n) } ∧
      (b.request notice .remove).told = b.told ++ [.noticeRemoved n]) ∨
    (∀ n ∈ b.notices, n.id ≠ notice.id) ∧ b.request notice .remove = b
  clear : b.clearNotices.notices = [] ∧
    b.clearNotices.told = b.told ++ b.notices.map .noticeRemoved
  balance : b.notices + removedIn b.told = (addedIn b.told : Multiset Notice)
  present : ∀ es n, es ++ [.noticeRemoved n] <+: b.told →
    n ∈ (addedIn es - removedIn es : Multiset Notice)

theorem tended_carryOutAll (retryBudget : Nat) (target : Target) (clock : Nat → Instant)
    (ops : List Operation)
    : ((new retryBudget target clock).carryOutAll ops).Tended
        ((new retryBudget target clock).errands ops) := by
  have htells : (new retryBudget target clock).stream.Tells (new retryBudget target clock).feed :=
    .empty clock
  have hheard := (tells_carryOutAll htells ops).heard
  have hkept := keepAll?_carryOutAll htells rfl ops
  constructor
  . exact notices_carryOutAll ops rfl
  . exact Rows.holds_ofErrands _
  . exact removed_carryOutAll htells rfl (List.suffix_refl _) ops
  . exact withdraw_cases hheard
  . exact ⟨rfl, told_carryOut hheard .clearNotices⟩
  . have hbalance := balance_keepAll? hkept
    rwa [zero_add] at hbalance
  . intro es n hes
    rcases exists_keepAll?_of_isPrefix hkept hes with ⟨ns, hns⟩
    exact mem_of_removed hns

example
    : let t : Ticket := ⟨0, { profile := default, attempt := fun _ => {} }, none⟩
      let n : Notice := ⟨.written 0, .error "x"⟩
      let b := (new 1 .here).carryOutAll [.beginPass [t], .request n .add, .request n .add,
        .start t, .finish t ⟨0⟩ .failed none, .request n .remove, .request n .remove]
      b.notices.map (·.id) = [.raised 0] ∧ (removedIn b.told).map (·.id) = [n.id, n.id] := by
  decide +kernel

end Board

end SetupBatch
