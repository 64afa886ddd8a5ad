import SetupBatch.Proofs.Capacity

/-!
This module contains the verification of the header above the feed. The events of a pass are a roll
of its tickets: each that starts is announced by the header, directly before its line is added, and
nothing else that happens to a ticket reaches the header.
-/

namespace SetupBatch

namespace Event

def isHeader : Event → Bool
  | .progress _ | .target _ => true
  | _ => false

theorem addsRunning_of_isHeader {e : Event} (h : e.isHeader = true) : e.addsRunning = false := by
  cases e with
  | progress display => rfl
  | target name => rfl
  | _ => cases h

def isAside (e : Event) : Bool := ! e.isHeader && ! e.addsRunning

theorem isHeader_of_isAside {e : Event} (h : e.isAside = true) : e.isHeader = false := by
  unfold isAside at h
  simp only [Bool.and_eq_true, Bool.not_eq_true'] at h
  exact h.1

theorem addsRunning_of_isAside {e : Event} (h : e.isAside = true) : e.addsRunning = false := by
  unfold isAside at h
  simp only [Bool.and_eq_true, Bool.not_eq_true'] at h
  exact h.2

theorem isAside_of_isAnnouncement {e : Event} (h : e.isAnnouncement = true) : e.isAside = true := by
  cases e with
  | retryOffered failed => rfl
  | retriesExhausted failed => rfl
  | batchFinished summary => rfl
  | _ => cases h

theorem filter_isHeader_of_asides {es : List Event} (h : ∀ e ∈ es, e.isAside = true)
    : es.filter (·.isHeader) = [] := by
  rw [List.filter_eq_nil_iff]
  intro e he
  simp [isHeader_of_isAside (h e he)]

theorem countP_addsRunning_of_asides {es : List Event} (h : ∀ e ∈ es, e.isAside = true)
    : es.countP (·.addsRunning) = 0 := by
  rw [List.countP_eq_zero]
  intro e he
  simp [addsRunning_of_isAside (h e he)]

end Event

namespace Ticket

structure Opens (t : Ticket) (line : Line) : Prop where
  running : line.running = true
  task : line.task = some t.index
  text : line.text = t.profile.wording.executing

def Closes (t : Ticket) (es : List Event) : Prop :=
  ∃ removed added moved told o failed,
    es = [.lineRemoved removed moved.id, .lineAdded added moved, .lineAdded (added + 1) told,
      .failureCount failed] ∧
    moved.running = false ∧ moved.task = some t.index ∧
    told.running = false ∧ told.task = some t.index ∧ told.text = t.profile.wording.tell o

theorem Closes.asides {t : Ticket} {es : List Event} (h : t.Closes es)
    : ∀ e ∈ es, e.isAside = true := by
  rcases h with ⟨removed, added, moved, told, o, failed, rfl, hmoved, -, htold, -⟩
  simp [Event.isAside, Event.isHeader, Event.addsRunning, hmoved, htold]

end Ticket

/--
The events of a pass in which first these tickets have started and those have reported, if
`announce` gives the event of the header for the ticket that starts after so many others.
-/
inductive Roll (announce : Nat → Ticket → Event)
    : List Ticket → List Ticket → List Event → Prop where
  | empty : Roll announce [] [] []
  | start {ts us : List Ticket} {es : List Event} (t : Ticket) (position : Nat) (line : Line) :
    Roll announce ts us es → t ∉ us → t.Opens line →
    Roll announce (ts ++ [t]) us (es ++ [announce ts.length t, .lineAdded position line])
  | report {ts us : List Ticket} {es : List Event} (t : Ticket) (closing : List Event) :
    Roll announce ts us es → t ∈ ts → t.Closes closing →
    Roll announce ts (us ++ [t]) (es ++ closing)
  | asides {ts us : List Ticket} {es : List Event} (rest : List Event) : Roll announce ts us es →
    (∀ e ∈ rest, e.isAside = true) → Roll announce ts us (es ++ rest)

namespace Roll

variable {announce : Nat → Ticket → Event} {ts us : List Ticket} {es : List Event}

theorem filter_isHeader (h : Roll announce ts us es)
    (hheader : ∀ k t, (announce k t).isHeader = true)
    : es.filter (·.isHeader) = ts.zipIdx.map fun (t, k) => announce k t := by
  induction h with
  | empty => rfl
  | start t position line _ _ _ ih =>
    rw [List.filter_append, ih, List.zipIdx_append, List.map_append, List.filter_cons,
      if_pos (hheader _ t)]
    simp [Event.isHeader]
  | report t closing _ _ hclosing ih =>
    rw [List.filter_append, ih, Event.filter_isHeader_of_asides hclosing.asides, List.append_nil]
  | asides rest _ hrest ih =>
    rw [List.filter_append, ih, Event.filter_isHeader_of_asides hrest, List.append_nil]

theorem countP_addsRunning (h : Roll announce ts us es)
    (hheader : ∀ k t, (announce k t).isHeader = true) : es.countP (·.addsRunning) = ts.length := by
  induction h with
  | empty => rfl
  | start t position line _ _ hopens ih =>
    have hannounce := fun k => Event.addsRunning_of_isHeader (hheader k t)
    have hline : (Event.lineAdded position line).addsRunning = true := hopens.running
    rw [List.countP_append, ih, List.length_append, List.countP_cons_of_neg (by simp [hannounce]),
      List.countP_singleton, if_pos hline]
    rfl
  | report t closing _ _ hclosing ih =>
    rw [List.countP_append, ih, Event.countP_addsRunning_of_asides hclosing.asides, Nat.add_zero]
  | asides rest _ hrest ih =>
    rw [List.countP_append, ih, Event.countP_addsRunning_of_asides hrest, Nat.add_zero]

/-- Where the ticket that started after `k` others stands in the events: it is announced directly
before its line is added, and if it has reported, its line settles later on. -/
def Shows (announce : Nat → Ticket → Event) (us : List Ticket) (es : List Event) (k : Nat)
    (t : Ticket) : Prop :=
  ∃ before position line after,
    es = before ++ announce k t :: .lineAdded position line :: after ∧ t.Opens line ∧
    before.countP (·.addsRunning) = k ∧
    (t ∈ us → ∃ out closing rest, after = out ++ closing ++ rest ∧ t.Closes closing)

theorem Shows.append {k : Nat} {t : Ticket} (h : Shows announce us es k t) (rest : List Event)
    : Shows announce us (es ++ rest) k t := by
  rcases h with ⟨before, position, line, after, rfl, hopens, hbefore, hclosed⟩
  refine ⟨before, position, line, after ++ rest, ?_, hopens, hbefore, ?_⟩
  . simp
  . intro ht
    rcases hclosed ht with ⟨out, closing, rest', rfl, hclosing⟩
    exact ⟨out, closing, rest' ++ rest, by simp, hclosing⟩

theorem shows (h : Roll announce ts us es) (hheader : ∀ k t, (announce k t).isHeader = true)
    {k : Nat} {t : Ticket} (hk : ts[k]? = some t) : Shows announce us es k t := by
  induction h with
  | empty => simp at hk
  | @start ts us es t' position line hroll hnew hopens ih =>
    by_cases hlt : k < ts.length
    . rw [List.getElem?_append_left hlt] at hk
      exact (ih hk).append _
    . rw [List.getElem?_append_right (Nat.not_lt.1 hlt), List.getElem?_singleton] at hk
      split at hk
      . next hzero =>
        cases hk
        have hlength : k = ts.length := by omega
        refine ⟨es, position, line, [], ?_, hopens, ?_, ?_⟩
        . rw [hlength]
        . rw [hroll.countP_addsRunning hheader, hlength]
        . intro ht
          exact absurd ht hnew
      . cases hk
  | @report ts us es t' closing hroll hmem hclosing ih =>
    rcases ih hk with ⟨before, position, line, after, rfl, hopens, hbefore, hclosed⟩
    refine ⟨before, position, line, after ++ closing, ?_, hopens, hbefore, ?_⟩
    . simp
    . intro ht
      cases List.mem_append.1 ht with
      | inl hold =>
        rcases hclosed hold with ⟨out, closing', rest, rfl, hclosing'⟩
        exact ⟨out, closing', rest ++ closing, by simp, hclosing'⟩
      | inr heq =>
        rw [List.mem_singleton.1 heq]
        exact ⟨after, closing, [], by simp, hclosing⟩
  | asides rest _ _ ih => exact (ih hk).append rest

end Roll

namespace Board

variable {b b' b'' : Board}

def Asides (b b' : Board) : Prop := ∃ es, b'.told = b.told ++ es ∧ ∀ e ∈ es, e.isAside = true

namespace Asides

theorem refl (b : Board) : b.Asides b := ⟨[], by simp, by simp⟩

theorem of_tellAll {es : List Event} (h : b'.stream = b.stream.tellAll es)
    (hes : ∀ e ∈ es, e.isAside = true) : b.Asides b' := by
  unfold Asides told
  rw [h, Stream.told_tellAll]
  split
  . exact ⟨es, rfl, hes⟩
  . exact ⟨[], by simp, by simp⟩

theorem of_tell {e : Event} (h : b'.stream = b.stream.tell e) (he : e.isAside = true)
    : b.Asides b' := by
  have hstream : b'.stream = b.stream.tellAll [e] := h
  exact of_tellAll hstream (by simpa using he)

theorem trans (h : b.Asides b') (h' : b'.Asides b'') : b.Asides b'' := by
  rcases h with ⟨xs, htold, hxs⟩
  rcases h' with ⟨ys, htold', hys⟩
  refine ⟨xs ++ ys, ?_, ?_⟩
  . rw [htold', htold, List.append_assoc]
  . exact List.forall_mem_append.2 ⟨hxs, hys⟩

theorem raiseFor (b : Board) (p : Profile) (o : Outcome) (detail : Option String)
    : b.Asides (b.raiseFor p o detail) := by
  cases o with
  | succeeded => exact refl b
  | needsReboot => exact of_tell rfl rfl
  | failed => exact of_tell rfl rfl

theorem say (b : Board) (text : String) (severity : Severity) : b.Asides (b.say text severity) :=
  of_tell rfl rfl

theorem request (b : Board) (notice : Notice) (kind : NoticeRequest)
    : b.Asides (b.request notice kind) := by
  cases kind with
  | add => exact of_tell rfl rfl
  | remove =>
    simp only [Board.request, withdraw]
    split
    . exact refl b
    . exact of_tell rfl rfl

theorem perform (s : Shared) (effect : Effect) : s.board.Asides (s.perform effect).board := by
  cases effect with
  | sleep ms => exact refl _
  | say text severity => exact say _ _ _
  | write key content => exact request s.board (s.notebook.write key content).1 .add
  | post key => exact request s.board (s.notebook.lookUp key).1 .add
  | withdraw key => exact request s.board (s.notebook.lookUp key).1 .remove

end Asides

theorem target_perform (s : Shared) (effect : Effect)
    : (s.perform effect).board.target = s.board.target := by
  cases effect with
  | withdraw key =>
    simp only [Shared.perform, request, withdraw]
    split <;> rfl
  | _ => rfl

theorem told_start {t : Ticket} {line : LineId} (hb : b.stream.heard = true)
    (h : b.start t = (.ok line, b'))
    : b'.target = b.target ∧
        b'.told = b.told ++ [b'.announcement t, .lineAdded b.feed.lines.length
          (b.feed.opening t.profile.wording.executing t.index)] := by
  unfold start at h
  split at h
  . cases h
  . cases h
    refine ⟨rfl, ?_⟩
    show (Stream.tell (Stream.tell b.stream _) _).told = _
    rw [Stream.told_tell, Stream.heard_tell, Stream.told_tell, hb, if_pos rfl, if_pos rfl,
      List.append_assoc]
    rfl

theorem told_tellChanges (hb : b.stream.heard = true) (changes : List Feed.Change) (e : Event)
    : ((b.tellChanges changes).tell e).told = b.told ++ (changes.map .ofChange ++ [e]) := by
  show (Stream.tell (Stream.tellAll b.stream _) e).told = _
  rw [Stream.told_tell, Stream.heard_tellAll, Stream.told_tellAll, hb, if_pos rfl, if_pos rfl,
    List.append_assoc]

theorem told_finish {t : Ticket} {line : LineId} {o : Outcome} {detail : Option String}
    (hb : b.stream.heard = true) (hsound : b.feed.Sound)
    (h : b.finish t line o detail = (.ok (), b')) (hfinishes : b.Finishes t line o b')
    : b'.target = b.target ∧
        ∃ es closing, b'.told = b.told ++ es ++ closing ∧ (∀ e ∈ es, e.isAside = true) ∧
          t.Closes closing := by
  rcases hfinishes.running with ⟨xs, l, ys, rfl, htask, hrun, -⟩
  unfold finish at h
  split at h
  . cases h
  . next tally htally =>
    have hraised := Alike.raiseFor { b with tally } t.profile o detail
    rcases Asides.raiseFor { b with tally } t.profile o detail with ⟨es, htold, hes⟩
    have hheard := hraised.heard.trans hb
    have htarget : (raiseFor { b with tally } t.profile o detail).target = b.target := by
      cases o <;> rfl
    have hsettle := Feed.settle_eq (hraised.sound hsound) (hraised.running.trans hrun) o
      (t.profile.wording.tell o)
    dsimp only at h
    rw [hsettle] at h
    cases h
    refine ⟨htarget, es, _,
      (told_tellChanges hheard _ _).trans (congrArg (· ++ _) htold), hes, ?_⟩
    exact ⟨_, _, l.settledAs o, Feed.closing _ l o (t.profile.wording.tell o), o, _, rfl, rfl,
      htask, rfl, htask, rfl⟩

theorem target_carryOut (b : Board) (op : Operation) : (b.carryOut op).target = b.target := by
  cases op with
  | start t =>
    simp only [carryOut, start]
    split <;> rfl
  | finish t line o detail =>
    simp only [carryOut, finish]
    split
    . rfl
    . split <;> cases o <;> rfl
  | request notice kind =>
    cases kind with
    | add => rfl
    | remove =>
      simp only [carryOut, request, withdraw]
      split <;> rfl
  | endPass =>
    simp only [carryOut, endPass]
    split <;> rfl
  | _ => rfl

theorem WorksTo.target (h : b.WorksTo b') : b'.target = b.target :=
  h.keeps (fun c op _ hc => (target_carryOut c op).trans hc) rfl

end Board

def Target.announcement (target : Target) (size k : Nat) (t : Ticket) : Event :=
  match target with
  | .here => .progress (.determinate (k + 1) size)
  | .remote name => .target (t.profile.targetName.getD name)

theorem Target.isHeader_announcement (target : Target) (size k : Nat) (t : Ticket)
    : (target.announcement size k t).isHeader = true := by
  cases target <;> rfl

structure Shared.Rolls (s₀ s : Shared) (ts us : List Ticket) : Prop where
  told : ∃ es, s.board.told = s₀.board.told ++ es ∧
    Roll (s₀.board.target.announcement s₀.board.tally.standing.passSize) ts us es
  started : s.board.tally.started = (ts.map (·.index)).reverse
  settled : s.board.tally.settled = (us.map (·.index)).reverse
  target : s.board.target = s₀.board.target
  samePass : s₀.board.tally.SamePass s.board.tally

theorem Roll.mem_of_reported {announce : Nat → Ticket → Event} {ts us : List Ticket}
    {es : List Event} (h : Roll announce ts us es) : ∀ t ∈ us, t ∈ ts := by
  induction h with
  | empty => simp
  | start t position line _ _ _ ih => exact fun u hu => List.mem_append_left _ (ih u hu)
  | report t closing _ ht _ ih =>
    exact List.forall_mem_append.2 ⟨ih, List.forall_mem_singleton.2 ht⟩
  | asides rest _ _ ih => exact ih

namespace Shared.Rolls

variable {crew : Crew} {s₀ s s' : Shared} {ts us tickets : List Ticket} {w : Worker}

theorem asides (h : s₀.Rolls s ts us) (htold : s.board.Asides s'.board)
    (htally : s'.board.tally = s.board.tally) (htarget : s'.board.target = s.board.target)
    : s₀.Rolls s' ts us := by
  rcases h.told with ⟨es, htold₀, hroll⟩
  rcases htold with ⟨rest, htold', hrest⟩
  refine ⟨⟨es ++ rest, ?_, .asides rest hroll hrest⟩, ?_, ?_, ?_, ?_⟩
  . rw [htold', htold₀, List.append_assoc]
  . rw [htally, h.started]
  . rw [htally, h.settled]
  . rw [htarget, h.target]
  . rw [htally]
    exact h.samePass

theorem start (h : s₀.Rolls s ts us) (hs : s.board.InStep) {t : Ticket} {line : LineId}
    (hstart : s.board.start t = (.ok line, s'.board)) (hstarts : s.board.Starts t line s'.board)
    : s₀.Rolls s' (ts ++ [t]) us := by
  rcases h.told with ⟨es, htold₀, hroll⟩
  rcases Board.told_start hs.heard hstart with ⟨htarget, htold⟩
  have htally := hstarts.tally
  rcases Tally.start_eq_ok_iff.1 htally with ⟨-, hfresh, heq⟩
  have hannounce : s'.board.announcement t = s₀.board.target.announcement
      s₀.board.tally.standing.passSize ts.length t := by
    have hstarted : s'.board.tally.standing.pass.started = ts.length + 1 := by
      rw [heq]
      dsimp only
      rw [hs.regular.pass_started, h.started, List.length_reverse, List.length_map]
    have hsize : s'.board.tally.standing.passSize = s₀.board.tally.standing.passSize := by
      rw [(Tally.SamePass.of_start htally).passSize, h.samePass.passSize]
    unfold Board.announcement Target.announcement Board.progress
    rw [htarget, h.target, hstarted, hsize]
    cases s₀.board.target <;> rfl
  have hnew : t ∉ us := by
    intro ht
    apply hfresh
    rw [h.started, List.mem_reverse]
    exact List.mem_map_of_mem (hroll.mem_of_reported t ht)
  have hopens : t.Opens (s.board.feed.opening t.profile.wording.executing t.index) :=
    ⟨rfl, rfl, rfl⟩
  rw [hannounce] at htold
  have hroll' := Roll.start t s.board.feed.lines.length _ hroll hnew hopens
  refine ⟨⟨_, ?_, hroll'⟩, ?_, ?_, ?_, ?_⟩
  . rw [htold, htold₀, List.append_assoc]
  . rw [heq, List.map_append, List.reverse_append, ← h.started]
    rfl
  . rw [heq]
    exact h.settled
  . rw [htarget, h.target]
  . exact h.samePass.trans (.of_start htally)

theorem report (h : s₀.Rolls s ts us) (hs : s.board.InStep) {t : Ticket} (ht : t ∈ ts)
    {line : LineId} {o : Outcome} {detail : Option String}
    (hfinish : s.board.finish (t.withOutcome o) line o detail = (.ok (), s'.board))
    (hfinishes : s.board.Finishes (t.withOutcome o) line o s'.board)
    : s₀.Rolls s' ts (us ++ [t]) := by
  rcases h.told with ⟨es, htold₀, hroll⟩
  rcases Board.told_finish hs.heard hs.sound hfinish hfinishes
    with ⟨htarget, rest, closing, htold, hrest, hclosing⟩
  rcases Tally.report_eq_ok_iff.1 hfinishes.tally with ⟨-, -, heq⟩
  refine ⟨⟨_, ?_, .report t closing (.asides rest hroll hrest) ht hclosing⟩, ?_, ?_, ?_, ?_⟩
  . rw [htold, htold₀]
    simp
  . rw [heq]
    exact h.started
  . rw [heq, List.map_append, List.reverse_append, ← h.settled]
    rfl
  . rw [htarget, h.target]
  . exact h.samePass.trans (.of_report hfinishes.tally)

theorem keeps (hindices : (tickets.map (·.index)).Nodup)
    : s₀.Keeps crew tickets fun s => ∃ ts us, (∀ t ∈ ts, t ∈ tickets) ∧ s₀.Rolls s ts us := by
  rintro w s s' hw hs hacts ⟨ts, us, hmem, h⟩
  cases hacts with
  | rests => exact ⟨ts, us, hmem, h⟩
  | starts hstart hstarts _ =>
    refine ⟨ts ++ [w.ticket], us, ?_, h.start hs hstart hstarts⟩
    exact List.forall_mem_append.2 ⟨hmem, List.forall_mem_singleton.2 hw⟩
  | performs effect =>
    refine ⟨ts, us, hmem, h.asides (.perform s effect) ?_ (Board.target_perform s effect)⟩
    exact (alike_perform hs.sound effect).tally
  | reports o detail _ hfinish hfinishes =>
    refine ⟨ts, us ++ [w.ticket], hmem, h.report hs ?_ hfinish hfinishes⟩
    -- the tally knows the ticket by its index, and no other ticket of the pass has that
    have hstarted := (Tally.report_eq_ok_iff.1 hfinishes.tally).1
    rw [h.started, List.mem_reverse] at hstarted
    rcases List.mem_map.1 hstarted with ⟨t, ht, heq⟩
    rwa [List.inj_on_of_nodup_map hindices (hmem t ht) hw heq] at ht

end Shared.Rolls

/--
The header of a pass on this machine: it counts from zero to the number of tickets, and each count
directly precedes the line of the ticket that it counts.
-/
structure LocalHeader (tickets : List Ticket) (es : List Event) : Prop where
  first : es.head? = some (.progress (.determinate 0 tickets.length))
  headers : es.filter (·.isHeader) =
    (List.range (tickets.length + 1)).map fun k => .progress (.determinate k tickets.length)
  started : ∃ ts : List Ticket, ts.Perm tickets ∧ es.countP (·.addsRunning) = ts.length ∧
    ∀ k t, ts[k]? = some t → ∃ before position line after,
      es = before ++ .progress (.determinate (k + 1) tickets.length) ::
        .lineAdded position line :: after ∧
      t.Opens line ∧ before.countP (·.addsRunning) = k

/--
The header of a pass on a remote machine, where one ticket runs: it shows no count until the line of
the ticket has settled, and the machine that the ticket names directly before its line is added.
-/
structure RemoteHeader (name : String) (t : Ticket) (es : List Event) : Prop where
  headers : es.filter (·.isHeader) = [.progress .indeterminate,
    .target (t.profile.targetName.getD name), .progress (.determinate 1 1)]
  started : ∃ before position line out closing rest,
    es = .progress .indeterminate :: before ++ .target (t.profile.targetName.getD name) ::
      .lineAdded position line :: out ++ closing ++ rest ++ [.progress (.determinate 1 1)] ∧
    t.Opens line ∧ t.Closes closing

def Target.Heads (target : Target) (tickets : List Ticket) (es : List Event) : Prop :=
  match target with
  | .here => LocalHeader tickets es
  | .remote name => ∃ t, tickets = [t] ∧ RemoteHeader name t es

namespace Roll

variable {tickets ts us : List Ticket} {es : List Event}

theorem localHeader (hperm : ts.Perm tickets)
    (h : Roll (Target.here.announcement tickets.length) ts us es)
    : LocalHeader tickets (.progress (.determinate 0 tickets.length) :: es) := by
  have hheader := Target.isHeader_announcement .here tickets.length
  constructor
  . rfl
  . have hcounts : ts.zipIdx.map (fun (t, k) => Target.here.announcement tickets.length k t) =
        (ts.zipIdx.map Prod.snd).map fun k => .progress (.determinate (k + 1) tickets.length) := by
      rw [List.map_map]
      rfl
    rw [List.filter_cons_of_pos rfl, h.filter_isHeader hheader, hcounts, List.zipIdx_map_snd,
      ← List.range_eq_range', hperm.length_eq, List.range_succ_eq_map, List.map_cons, List.map_map]
    rfl
  . refine ⟨ts, hperm, ?_, ?_⟩
    . rw [List.countP_cons_of_neg (by simp [Event.addsRunning]), h.countP_addsRunning hheader]
    . intro k t hk
      rcases h.shows hheader hk with ⟨before, position, line, after, rfl, hopens, hbefore, -⟩
      refine ⟨_ :: before, position, line, after, rfl, hopens, ?_⟩
      rw [List.countP_cons_of_neg (by simp [Event.addsRunning]), hbefore]

theorem remoteHeader {name : String} {t : Ticket} (ht : t ∈ us)
    (h : Roll ((Target.remote name).announcement 1) [t] us es)
    : RemoteHeader name t (.progress .indeterminate :: es ++ [.progress (.determinate 1 1)]) := by
  have hheader := Target.isHeader_announcement (.remote name) 1
  constructor
  . rw [List.filter_append, List.filter_cons_of_pos rfl, h.filter_isHeader hheader]
    rfl
  . rcases h.shows (k := 0) hheader rfl
      with ⟨before, position, line, after, rfl, hopens, -, hclosed⟩
    rcases hclosed ht with ⟨out, closing, rest, rfl, hclosing⟩
    refine ⟨before, position, line, out, closing, rest, ?_, hopens, hclosing⟩
    simp [Target.announcement]

end Roll

namespace Batch

variable {d : Discipline} {b b₁ b₂ : Batch} {retry : Bool}

theorem exists_roll (h : b.Primed)
    (hphases : runPhases d b.opened (phases b.options.target retry b.pending) = (.ok (), b₂))
    : ∃ ts us es, ts.Perm b.pending ∧ (∀ t ∈ b.pending, t ∈ us) ∧
        Roll (b.board.target.announcement b.pending.length) ts us es ∧
        b₂.board.told = b.opened.board.told ++ es ∧ b₂.board.stream.heard = true ∧
        b₂.board.target = b.board.target ∧
        b₂.board.progress = .progress (.determinate b.pending.length b.pending.length) := by
  have hnone : b.opened.shared.Rolls b.opened.shared [] [] :=
    ⟨⟨[], by simp, .empty⟩, rfl, rfl, rfl, .refl _⟩
  rcases h.through d hphases (Shared.Rolls.keeps h.indices) ⟨[], [], by simp, hnone⟩
    with ⟨⟨ts, us, hmem, hrolls⟩, hthrough⟩
  rcases hrolls.told with ⟨es, htold, hroll⟩
  have hus : us.Perm b.pending := by
    apply hthrough.perm_of_settled h.indices _ hrolls.settled
    exact fun t ht => hmem t (hroll.mem_of_reported t ht)
  have hreported : ∀ t ∈ b.pending, t ∈ us := fun t ht => hus.mem_iff.2 ht
  have hts : ts.Perm b.pending := by
    have hstarted := hthrough.inStep.regular.started
    rw [hrolls.started, List.nodup_reverse] at hstarted
    rw [List.perm_ext_iff_of_nodup (.of_map _ hstarted) (.of_map _ h.indices)]
    intro t
    constructor
    . exact hmem t
    . exact fun ht => hroll.mem_of_reported t (hreported t ht)
  refine ⟨ts, us, es, hts, hreported, hroll, htold, hthrough.inStep.heard, hrolls.target, ?_⟩
  have hlength : b₂.board.tally.standing.pass.started = b.pending.length := by
    rw [hthrough.inStep.regular.pass_started, hrolls.started, List.length_reverse, List.length_map,
      hts.length_eq]
  show Event.progress (.determinate b₂.board.tally.standing.pass.started _) = _
  rw [hlength, hrolls.samePass.passSize]
  rfl

theorem heads_runPass (h : b.Primed) {failed : Nat} (hpass : b.runPass d retry = (.ok failed, b₁))
    (hsingle : b.board.target.isRemote = true → ∃ t, b.pending = [t])
    : ∃ body, b₁.board.told = b.board.told ++ body ∧ b.board.target.Heads b.pending body := by
  rcases runPhases_of_runPass d hpass with ⟨b₂, hphases, rfl⟩
  rcases exists_roll h hphases
    with ⟨ts, us, es, hperm, hreported, hroll, htold, hheard, htarget, hprogress⟩
  have hopened : b.opened.board.told = b.board.told ++ [.progress
      (if b.board.target.isRemote then .indeterminate else .determinate 0 b.pending.length)] := by
    show (Stream.tell _ _).told = _
    rw [Stream.told_tell, if_pos h.heard]
  show ∃ body, b₂.board.endPass.told = _ ∧ _
  unfold Board.endPass
  rw [htarget]
  cases hname : b.board.target with
  | here =>
    rw [hname] at hroll hopened
    refine ⟨_, ?_, hroll.localHeader hperm⟩
    show b₂.board.told = _
    rw [htold, hopened, List.append_assoc]
    rfl
  | remote name =>
    rw [hname] at hroll hopened
    rcases hsingle (by rw [hname]; rfl) with ⟨t, ht⟩
    rw [ht] at hperm hreported hroll hprogress
    rw [List.perm_singleton.1 hperm] at hroll
    refine ⟨_, ?_, t, ht, hroll.remoteHeader (hreported t List.mem_cons_self)⟩
    show (Stream.tell b₂.board.stream b₂.board.progress).told = _
    rw [Stream.told_tell, if_pos hheard, hprogress]
    show b₂.board.told ++ _ = _
    rw [htold, hopened]
    simp [Target.isRemote]

theorem Announces.asides {b' : Batch} (h : b.Announces b') : b.board.Asides b'.board := by
  rcases h.shared with ⟨es, hes, hshared⟩
  have hstream : b'.board.stream = b.board.stream.tellAll es :=
    congrArg (·.board.stream) hshared
  exact Board.Asides.of_tellAll hstream fun e he => Event.isAside_of_isAnnouncement (hes e he)

theorem Announces.target {b' : Batch} (h : b.Announces b')
    : b'.board.target = b.board.target := by
  rcases h.shared with ⟨es, -, hshared⟩
  exact congrArg (·.board.target) hshared

theorem asides_again (b : Batch) (gate : Gate) : b.board.Asides (b.again gate).board := by
  have hcleared : b.board.Asides b.board.clearNotices := by
    apply Board.Asides.of_tellAll rfl
    intro e he
    rcases List.mem_map.1 he with ⟨notice, -, rfl⟩
    rfl
  exact hcleared.trans (.of_tell rfl rfl)

theorem asides_of_pass? {r : Request} {p : Pass} (h : b.pass? r = some p)
    : b.board.Asides p.batch.board ∧ p.batch.board.target = b.board.target := by
  rcases pass?_eq_some h with ⟨d, gate, message, rfl, rfl, -⟩ | ⟨d, gate, message, rfl, rfl, -⟩
  . exact ⟨.refl _, rfl⟩
  . exact ⟨b.asides_again gate, rfl⟩

end Batch

namespace Session

open Batch

variable {b₀ : Batch} {s : Session} {r : Request} {p : Pass}

theorem Stands.pending_of_pass? (hs : s.Stands b₀) (h : s.batch.pass? r = some p)
    : p.batch.pending ≠ [] ∧ p.batch.pending =
        if p.retry then s.batch.failed.map (·.reset) else b₀.pending := by
  rcases pass?_eq_some h with ⟨d, gate, message, rfl, rfl, -⟩ | ⟨d, gate, message, rfl, rfl, -⟩
  . cases hs with
    | fresh _ _ _ hfresh =>
      refine ⟨?_, hfresh.pending⟩
      intro hnil
      have hzero : s.batch.pending.length = 0 := List.length_eq_zero_iff.2 hnil
      rw [hfresh.pass?_run_of_nil d hzero] at h
      cases h
    | paused _ hpaused =>
      rw [hpaused.pass?_run d] at h
      cases h
  . cases hs with
    | fresh _ _ _ hfresh =>
      rw [hfresh.pass?_retry d] at h
      cases h
    | paused _ hpaused =>
      by_cases ho : Offers b₀ s.retries (0 < s.finishes) s.batch
      . refine ⟨?_, rfl⟩
        intro hnil
        have hzero : (s.batch.failed.map Ticket.reset).length = 0 := List.length_eq_zero_iff.2 hnil
        rw [List.length_map] at hzero
        exact Nat.ne_of_gt ho.1 hzero
      . rw [hpaused.pass?_retry_of_not d ho] at h
        cases h

theorem Conducts.target {b₁ : Batch} (h : s.Conducts b₀ r p b₁)
    : b₁.board.target = p.batch.board.target := by
  rcases board_runPass p.discipline h.runPass with ⟨board, hwork, hboard⟩
  rw [hboard]
  exact (Board.target_carryOut board .endPass).trans hwork.target

theorem target_call (hs : s.Stands b₀) (r : Request)
    : (s.call r).batch.board.target = s.batch.board.target := by
  cases hpass : s.batch.pass? r with
  | none =>
    rcases announces_of_pass?_eq_none hpass with ⟨text, severity, rfl⟩ | hannounces
    . rfl
    . exact hannounces.target
  | some p =>
    rcases hs.conducts hpass with ⟨b₁, hconducts⟩
    have hannounces := announces_of_pass?_eq_some hpass hconducts.runPass
    exact hannounces.target.trans (hconducts.target.trans (asides_of_pass? hpass).2)

theorem target_ofCalls (h : Fresh b₀ b₀) (requests : List Request)
    : (ofCalls b₀ requests).batch.board.target = b₀.board.target := by
  induction requests using List.reverseRecOn with
  | nil => rfl
  | append_singleton requests r ih =>
    rw [ofCalls_append]
    exact (target_call (stands_ofCalls h requests).1 r).trans ih

theorem asides_call (h : s.batch.pass? r = none) : s.batch.board.Asides (s.call r).batch.board := by
  rcases announces_of_pass?_eq_none h with ⟨text, severity, rfl⟩ | hannounces
  . exact Board.Asides.say _ text severity
  . exact hannounces.asides

theorem Stands.heads_call (hs : s.Stands b₀) (h : s.batch.pass? r = some p)
    (hsingle : s.batch.board.target.isRemote = true → b₀.pending.length ≤ 1)
    : ∃ before body after,
        (s.call r).batch.board.told = s.batch.board.told ++ (before ++ body ++ after) ∧
        (∀ e ∈ before ++ after, e.isHeader = false) ∧
        s.batch.board.target.Heads p.batch.pending body := by
  rcases hs.conducts h with ⟨b₁, hconducts⟩
  rcases asides_of_pass? h with ⟨⟨before, hbefore, hbefore'⟩, htarget⟩
  rcases (announces_of_pass?_eq_some h hconducts.runPass).asides with ⟨after, hafter, hafter'⟩
  have hone : p.batch.board.target.isRemote = true → ∃ t, p.batch.pending = [t] := by
    intro hremote
    rw [htarget] at hremote
    have hsub : p.batch.pending.length ≤ b₀.pending.length :=
      (List.subperm_of_subset (.of_map _ hconducts.primed.indices) hconducts.mem).length_le
    have hpos := List.length_pos_iff.2 (hs.pending_of_pass? h).1
    have := hsingle hremote
    exact List.length_eq_one_iff.1 (by omega)
  rcases heads_runPass hconducts.primed hconducts.runPass hone with ⟨body, hbody, hheads⟩
  refine ⟨before, body, after, ?_, ?_, htarget ▸ hheads⟩
  . have hcall : (s.call r).batch.board.told = _ := hafter
    rw [hcall, hbody, hbefore]
    simp
  . intro e he
    cases List.mem_append.1 he with
    | inl hmem => exact Event.isHeader_of_isAside (hbefore' e hmem)
    | inr hmem => exact Event.isHeader_of_isAside (hafter' e hmem)

end Session

namespace Batch

/--
The header counts right in every pass of a batch, whatever has been asked before and in whatever
order the workers step: a call that runs a pass shows the header of that pass, and any other call
leaves the header alone.
-/
theorem headed_ofCalls {id : BatchId} {options : Options} {tasks : List Task}
    {channel : Option String} {clock : Nat → Instant} {b₀ : Batch}
    (hnew : Batch.new id options tasks channel clock = .ok b₀) (requests : List Request)
    (r : Request)
    : let s := Session.ofCalls b₀ requests
      b₀.board.told = [] ∧
      (s.batch.pass? r = none → ∃ es, (s.call r).batch.board.told = s.batch.board.told ++ es ∧
        ∀ e ∈ es, e.isHeader = false) ∧
      ∀ p, s.batch.pass? r = some p →
        p.batch.pending = (if p.retry then s.batch.failed.map (·.reset)
          else ticketsFor options.target tasks) ∧
        ∃ before body after,
          (s.call r).batch.board.told = s.batch.board.told ++ (before ++ body ++ after) ∧
          (∀ e ∈ before ++ after, e.isHeader = false) ∧
          options.target.Heads p.batch.pending body := by
  intro s
  have hfresh := fresh_new hnew
  have hstands : s.Stands b₀ := (Session.stands_ofCalls hfresh requests).1
  have hb₀ : b₀.board.told = [] ∧ b₀.pending = ticketsFor options.target tasks ∧
      b₀.board.target = options.target := by
    rcases eq_of_new hnew with ⟨slots, rfl⟩
    exact ⟨rfl, rfl, rfl⟩
  have htarget : s.batch.board.target = options.target :=
    (Session.target_ofCalls hfresh requests).trans hb₀.2.2
  refine ⟨hb₀.1, ?_, ?_⟩
  . intro hnone
    rcases Session.asides_call hnone with ⟨es, htold, hes⟩
    exact ⟨es, htold, fun e he => Event.isHeader_of_isAside (hes e he)⟩
  . intro p hpass
    have hsingle : s.batch.board.target.isRemote = true → b₀.pending.length ≤ 1 := by
      intro hremote
      rw [htarget] at hremote
      rw [hb₀.2.1]
      unfold ticketsFor
      rw [if_pos hremote]
      exact List.length_take_le 1 _
    have hheads := hstands.heads_call hpass hsingle
    rw [htarget] at hheads
    rw [← hb₀.2.1]
    exact ⟨(hstands.pending_of_pass? hpass).2, hheads⟩

theorem headed_sample
    : let s := Session.ofCalls sample [.run .queued]
      ∃ p before body after, s.batch.pass? (.retry .queued) = some p ∧
        (s.call (.retry .queued)).batch.board.told =
          s.batch.board.told ++ (before ++ body ++ after) ∧
        (∀ e ∈ before ++ after, e.isHeader = false) ∧ LocalHeader p.batch.pending body := by
  intro s
  have hsome : (s.batch.pass? (.retry .queued)).isSome = true := by cbv
  rcases Option.isSome_iff_exists.1 hsome with ⟨p, hp⟩
  rcases ((headed_ofCalls new_sample [.run .queued] (.retry .queued)).2.2 p hp).2
    with ⟨before, body, after, htold, hasides, hheads⟩
  exact ⟨p, before, body, after, hp, htold, hasides, hheads⟩

end Batch

end SetupBatch
