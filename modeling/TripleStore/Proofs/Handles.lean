import TripleStore.Proofs.Outcome
import TripleStore.SharedStore

/-! # Runs through handles -/

namespace TripleStore

variable {α : Type}

/-! ## One request to a plain store -/

namespace Store

theorem perform_logs_append (accepts : Event → Bool) (st : Store) (es : List Event)
    (rest : List Effect) :
    st.perform accepts (es.map .log ++ rest) =
      if es.all accepts then
        { st.perform accepts rest with log := es ++ (st.perform accepts rest).log }
      else { store := st, answer := .error {}, log := es.takeWhile accepts } := by
  induction es with
  | nil => rfl
  | cons e es ih =>
    rw [List.map_cons, List.cons_append, perform, ih, List.all_cons, List.takeWhile_cons]
    cases accepts e with
    | true => cases es.all accepts <;> rfl
    | false => rfl

theorem effects_eq (st : Store) (r : Request α) :
    ∃ puts, st.effects r = (st.ask r).log.map .log ++ puts ∧
      ∀ accepts, st.perform accepts puts = { store := (st.ask r).store, answer := .ok () } := by
  cases r with
  | add s =>
    by_cases hs : s.isValid
    · exact ⟨[.put (st.add s).store], by simp [effects, ask, add, Update.map, hs], fun _ => rfl⟩
    · exact ⟨[], by simp [effects, ask, add, Update.map, hs],
        fun _ => by simp [perform, ask, add, Update.map, hs]⟩
  | clear => exact ⟨[.put empty], rfl, fun _ => rfl⟩
  | count => exact ⟨[], rfl, fun _ => rfl⟩
  | select p e => exact ⟨[], by simp [effects, ask], fun _ => rfl⟩
  | read f => exact ⟨[], rfl, fun _ => rfl⟩

theorem askLogging_eq (accepts : Event → Bool) (st : Store) (r : Request α) :
    st.askLogging accepts r =
      if (st.ask r).log.all accepts then (st.ask r).map .ok
      else { store := st, answer := .error {}, log := (st.ask r).log.takeWhile accepts } := by
  obtain ⟨puts, heffects, hputs⟩ := effects_eq st r
  rw [askLogging, heffects, perform_logs_append, hputs]
  split
  · simp [Update.map, Except.map]
  · rfl

theorem askLogging_cases (accepts : Event → Bool) (st : Store) (r : Request α) :
    st.askLogging accepts r = (st.ask r).map .ok ∨
      (∃ failure, (st.askLogging accepts r).answer = .error failure) ∧
        (st.askLogging accepts r).store = st := by
  rw [askLogging_eq]
  split
  · exact Or.inl rfl
  · exact Or.inr ⟨⟨_, rfl⟩, rfl⟩

end Store

/-! ## One request under the lock -/

namespace Lock

abbrev sound (st : Store) : Lock := { store := st }

theorem ask_of_poisoned {l : Lock} (hl : l.poisoned = true) (r : Request α) :
    l.ask r = { store := l, answer := .error .lockPoisoned } := by
  cases r <;> simp [ask, add, clear, count, select, write, read, hl]

theorem ask_sound (st : Store) (r : Request α) :
    (sound st).ask r =
      { store := sound (st.ask r).store
        answer := (st.ask r).answer.mapError .query
        log := (st.ask r).log } := by
  cases r <;> rfl

theorem askLogging_of_poisoned {l : Lock} (hl : l.poisoned = true) (accepts : Event → Bool)
    (r : Request α) :
    l.askLogging accepts r = { store := l, answer := .ok (.error .lockPoisoned) } := by
  rw [askLogging, if_pos hl, ask_of_poisoned hl]
  rfl

theorem askLogging_sound (accepts : Event → Bool) (st : Store) (r : Request α) :
    let u := (sound st).askLogging accepts r
    let v := st.askLogging accepts r
    u.answer = v.answer.map (Except.mapError .query) ∧ u.log = v.log ∧
      u.store.store = v.store ∧
      (u.store.poisoned = true ↔ r.isWrite = true ∧ ∃ failure, u.answer = .error failure) := by
  intro u v
  rcases Store.askLogging_cases accepts st r with hok | ⟨⟨failure, hfail⟩, -⟩
  · have hv : v = (st.ask r).map .ok := hok
    have hu : u = ((sound st).ask r).map .ok := by simp [u, askLogging, hok, Update.map]
    rw [hu, hv, ask_sound]
    simp [Update.map, Except.map]
  · have hv : v.answer = .error failure := hfail
    have hu : u =
        { store := { store := v.store, poisoned := r.isWrite }, answer := .error failure,
          log := v.log } := by
      simp [u, v, askLogging, hfail]
    simp [hu, hv, Except.map]

end Lock

/-! ## Runs -/

inductive Step : Type 1 where
  | share (handle : Nat)
  | ask {α : Type} (accepts : Event → Bool) (handle : Nat) (r : Request α)

/-- The plain store after a step. Which handle the step names does not matter to it. -/
def Step.plain (st : Store) : Step → Store
  | .share _ => st
  | .ask accepts _ r => (st.askLogging accepts r).store

namespace SharedStore

variable {sh sh' : SharedStore} {l : Lock}

def step (sh : SharedStore) : Step → Option SharedStore
  | .share handle => sh.share handle
  | .ask accepts handle r => (sh.ask accepts handle r).map Update.store

def run (sh : SharedStore) (steps : List Step) : Option SharedStore := steps.foldlM step sh

/-- The step is a request of a writer, and it breaks off under the lock. -/
def BreaksOff (sh : SharedStore) : Step → Prop
  | .share _ => False
  | .ask accepts handle r =>
    r.isWrite = true ∧ ∃ u failure, sh.ask accepts handle r = some u ∧ u.answer = .error failure

def WriterBrokeOff (sh : SharedStore) (steps : List Step) : Prop :=
  ∃ before s after sh', steps = before ++ s :: after ∧ sh.run before = some sh' ∧ sh'.BreaksOff s

theorem run_cons (sh : SharedStore) (s : Step) (steps : List Step) :
    sh.run (s :: steps) = sh.step s >>= fun sh => sh.run steps := List.foldlM_cons

theorem writerBrokeOff_cons {s : Step} (hs : sh.step s = some sh') (steps : List Step) :
    sh.WriterBrokeOff (s :: steps) ↔ sh.BreaksOff s ∨ sh'.WriterBrokeOff steps := by
  constructor
  · rintro ⟨before, s', after, mid, hsplit, hmid, hbreaks⟩
    cases before with
    | nil =>
      obtain ⟨rfl, -⟩ := List.cons.inj hsplit
      obtain rfl : sh = mid := Option.some.inj hmid
      exact Or.inl hbreaks
    | cons b before =>
      obtain ⟨rfl, hrest⟩ := List.cons.inj hsplit
      rw [run_cons, hs] at hmid
      exact Or.inr ⟨before, s', after, mid, hrest, hmid, hbreaks⟩
  · rintro (hbreaks | ⟨before, s', after, mid, hsplit, hmid, hbreaks⟩)
    · exact ⟨[], s, steps, sh, rfl, rfl, hbreaks⟩
    · refine ⟨s :: before, s', after, mid, by rw [hsplit, List.cons_append], ?_, hbreaks⟩
      rw [run_cons, hs]
      exact hmid

/-! ## Where handles lead -/

def LeadsTo (sh : SharedStore) (l : Lock) : Prop :=
  ∃ place, sh.locks[place]? = some l ∧ ∀ p ∈ sh.handles, p = place

theorem leadsTo_ofStore (st : Store) : (ofStore st).LeadsTo (.sound st) :=
  ⟨0, rfl, by simp [ofStore]⟩

theorem LeadsTo.share (hl : sh.LeadsTo l) {handle : Nat} (h : handle < sh.handles.length) :
    ∃ sh', sh.share handle = some sh' ∧ sh'.LeadsTo l ∧
      sh'.handles.length = sh.handles.length + 1 := by
  obtain ⟨place, hplace, hhandles⟩ := hl
  have hget : sh.handles[handle]? = some place := by
    rw [List.getElem?_eq_getElem h, hhandles _ (List.getElem_mem h)]
  refine ⟨{ sh with handles := sh.handles ++ [place] }, by rw [SharedStore.share, hget]; rfl, ?_,
    by simp⟩
  refine ⟨place, hplace, ?_⟩
  intro p hp
  rcases List.mem_append.mp hp with hp | hp
  · exact hhandles p hp
  · exact List.mem_singleton.mp hp

theorem LeadsTo.ask (hl : sh.LeadsTo l) {handle : Nat} (h : handle < sh.handles.length)
    (accepts : Event → Bool) (r : Request α) :
    ∃ u, sh.ask accepts handle r = some u ∧
      u.answer = (l.askLogging accepts r).answer ∧ u.log = (l.askLogging accepts r).log ∧
      u.store.LeadsTo (l.askLogging accepts r).store ∧ u.store.handles = sh.handles := by
  obtain ⟨place, hplace, hhandles⟩ := hl
  have hget : sh.handles[handle]? = some place := by
    rw [List.getElem?_eq_getElem h, hhandles _ (List.getElem_mem h)]
  have hlt : place < sh.locks.length := (List.getElem?_eq_some_iff.mp hplace).1
  let u := l.askLogging accepts r
  refine ⟨{ u with store := { sh with locks := sh.locks.set place u.store } }, ?_, rfl, rfl,
    ⟨place, List.getElem?_set_self hlt, hhandles⟩, rfl⟩
  rw [SharedStore.ask, hget]
  simp only [Option.bind_eq_bind, Option.bind_some, hplace]
  rfl

theorem length_handles_of_ask {accepts : Event → Bool} {handle : Nat} {r : Request α}
    {u : Update SharedStore (Except LogFailure (Except SharedError α))}
    (h : sh.ask accepts handle r = some u) : handle < sh.handles.length := by
  refine Nat.lt_of_not_le fun hout => ?_
  rw [SharedStore.ask, List.getElem?_eq_none hout] at h
  cases h

theorem length_handles_of_share {handle : Nat} (h : sh.share handle = some sh') :
    handle < sh.handles.length := by
  refine Nat.lt_of_not_le fun hout => ?_
  rw [SharedStore.share, List.getElem?_eq_none hout] at h
  cases h

/-! ## What a run keeps -/

/-- All handles lead to the plain store, or to a lock that is poisoned. -/
structure Tracks (sh : SharedStore) (st : Store) (broken : Prop) : Prop where
  sound : ¬ broken → sh.LeadsTo (.sound st)
  poisoned : broken → ∃ l, l.poisoned = true ∧ sh.LeadsTo l

theorem Tracks.leadsTo {st : Store} {broken : Prop} (ht : sh.Tracks st broken) :
    ∃ l, sh.LeadsTo l ∧ (¬ broken → l = .sound st) ∧ (broken → l.poisoned = true) := by
  by_cases hb : broken
  · obtain ⟨l, hp, hl⟩ := ht.poisoned hb
    exact ⟨l, hl, fun h => absurd hb h, fun _ => hp⟩
  · exact ⟨.sound st, ht.sound hb, fun _ => rfl, fun h => absurd h hb⟩

theorem tracks_step {st : Store} {broken : Prop} (ht : sh.Tracks st broken) {s : Step}
    (hs : sh.step s = some sh') : sh'.Tracks (s.plain st) (broken ∨ sh.BreaksOff s) := by
  obtain ⟨l, hl, hsound, hpoisoned⟩ := ht.leadsTo
  cases s with
  | share handle =>
    obtain ⟨new, hnew, hlnew, -⟩ := hl.share (length_handles_of_share hs)
    obtain rfl : new = sh' := Option.some.inj (hnew.symm.trans hs)
    simp only [BreaksOff, or_false]
    exact ⟨fun hb => hsound hb ▸ hlnew, fun hb => ⟨l, hpoisoned hb, hlnew⟩⟩
  | ask accepts handle r =>
    obtain ⟨u, hu, rfl⟩ := Option.map_eq_some_iff.mp hs
    obtain ⟨u', hu', hanswer, -, hlu, -⟩ := hl.ask (length_handles_of_ask hu) accepts r
    obtain rfl : u' = u := Option.some.inj (hu'.symm.trans hu)
    have hbreaks : sh.BreaksOff (.ask accepts handle r) ↔
        r.isWrite = true ∧ ∃ failure, (l.askLogging accepts r).answer = .error failure := by
      rw [← hanswer]
      constructor
      · rintro ⟨hw, v, failure, hv, hfail⟩
        obtain rfl : v = u' := Option.some.inj (hv.symm.trans hu)
        exact ⟨hw, failure, hfail⟩
      · rintro ⟨hw, failure, hfail⟩
        exact ⟨hw, u', failure, hu, hfail⟩
    by_cases hb : broken
    · have hp := hpoisoned hb
      rw [Lock.askLogging_of_poisoned hp] at hlu
      exact ⟨fun h => absurd (Or.inl hb) h, fun _ => ⟨l, hp, hlu⟩⟩
    · obtain rfl := hsound hb
      obtain ⟨-, -, hstore, hwrite⟩ := Lock.askLogging_sound accepts st r
      rw [← hbreaks] at hwrite
      refine ⟨?_, ?_⟩
      · intro h
        have hclean : ((Lock.sound st).askLogging accepts r).store =
            .sound (Step.plain st (.ask accepts handle r)) := by
          have hnot : ((Lock.sound st).askLogging accepts r).store.poisoned = false := by
            rw [← Bool.not_eq_true, hwrite]
            exact fun hw => h (Or.inr hw)
          cases hlock : ((Lock.sound st).askLogging accepts r).store
          simp_all [Step.plain]
        exact hclean ▸ hlu
      · rintro (h | h)
        · exact absurd h hb
        · exact ⟨_, hwrite.mpr h, hlu⟩

theorem tracks_run {st : Store} {broken : Prop} (ht : sh.Tracks st broken) {steps : List Step}
    (hrun : sh.run steps = some sh') :
    sh'.Tracks (steps.foldl Step.plain st) (broken ∨ sh.WriterBrokeOff steps) := by
  induction steps generalizing sh st broken with
  | nil =>
    obtain rfl : sh = sh' := Option.some.inj hrun
    have hnone : ¬ sh.WriterBrokeOff [] := by
      rintro ⟨before, s, after, mid, hsplit, -⟩
      simp at hsplit
    simpa [hnone] using ht
  | cons s steps ih =>
    rw [run_cons] at hrun
    obtain ⟨mid, hmid, hrest⟩ := Option.bind_eq_some_iff.mp hrun
    rw [writerBrokeOff_cons hmid, ← or_assoc]
    exact ih (tracks_step ht hmid) hrest

/-- Every handle answers as one plain store does, until a writer breaks off under the lock. -/
theorem handles_answer_as_plain (st : Store) {steps : List Step} {sh : SharedStore}
    (hrun : (ofStore st).run steps = some sh) :
    (∀ handle < sh.handles.length,
      (∃ sh', sh.share handle = some sh' ∧ sh'.handles.length = sh.handles.length + 1) ∧
      ∀ (α : Type) (accepts : Event → Bool) (r : Request α),
        ∃ u, sh.ask accepts handle r = some u ∧
          let v := (steps.foldl Step.plain st).askLogging accepts r
          (¬ (ofStore st).WriterBrokeOff steps →
            u.answer = v.answer.map (Except.mapError .query) ∧ u.log = v.log ∧
              u.answer ≠ .ok (.error .lockPoisoned)) ∧
          ((ofStore st).WriterBrokeOff steps → u.answer = .ok (.error .lockPoisoned))) ∧
    (∀ (α : Type) (accepts : Event → Bool) (r : Request α) (failure : LogFailure),
      (st.askLogging accepts r).answer = .error failure → (st.askLogging accepts r).store = st) ∧
    ∀ accepts s, ¬ s.isValid → accepts (.rejected s) = false →
      (st.askLogging accepts (.add s)).answer = .error {} := by
  have hstart : (ofStore st).Tracks st False :=
    ⟨fun _ => leadsTo_ofStore st, fun h => absurd h id⟩
  have hend := tracks_run hstart hrun
  rw [false_or] at hend
  obtain ⟨l, hl, hsound, hpoisoned⟩ := hend.leadsTo
  refine ⟨?_, ?_, ?_⟩
  · intro handle hhandle
    obtain ⟨new, hnew, -, hlength⟩ := hl.share hhandle
    refine ⟨⟨new, hnew, hlength⟩, ?_⟩
    intro α accepts r
    obtain ⟨u, hu, hanswer, hlog, -, -⟩ := hl.ask hhandle accepts r
    refine ⟨u, hu, ?_, ?_⟩
    · intro hb
      obtain rfl := hsound hb
      obtain ⟨hplain, hplainLog, -, -⟩ :=
        Lock.askLogging_sound accepts (steps.foldl Step.plain st) r
      rw [hanswer, hlog]
      refine ⟨hplain, hplainLog, ?_⟩
      rw [hplain]
      rcases ((steps.foldl Step.plain st).askLogging accepts r).answer with failure | (err | a) <;>
        simp [Except.map]
    · intro hb
      rw [hanswer, Lock.askLogging_of_poisoned (hpoisoned hb)]
  · intro α accepts r failure hfail
    rcases Store.askLogging_cases accepts st r with hok | ⟨-, hsame⟩
    · rw [hok] at hfail
      cases hfail
    · exact hsame
  · intro accepts s hs hrefused
    simp [Store.askLogging_eq, Store.ask, Store.add, Update.map, hs, hrefused]

def visits : List Step :=
  [.share 0, .ask (fun _ => true) 1 (.add (.literal (.parse "a") "p" "o")),
    .ask (fun _ => true) 0 (.add .invalid), .share 1]

/-- The log refuses to take the rejection. -/
def refusedAddition : Step := .ask (fun e => e.level ≠ .debug) 2 (.add .invalid)

theorem visits_answered :
    ∃ sh broken, (ofStore .empty).run visits = some sh ∧
      (ofStore .empty).run (visits ++ [refusedAddition, .share 0]) = some broken ∧
      ¬ (ofStore .empty).WriterBrokeOff visits ∧
      (ofStore .empty).WriterBrokeOff (visits ++ [refusedAddition, .share 0]) ∧
      (∃ u, sh.ask (fun _ => true) 2 (.select .ids .everything) = some u ∧
        u.answer = .ok (.ok [0])) ∧
      (∃ u, sh.ask (fun _ => true) 1 (.select ((Term.attributeOf "q").typed Int) .everything) =
          some u ∧ u.answer = .ok (.error (.query ⟨0, .missingAttribute "q"⟩))) ∧
      ∃ u, broken.ask (fun _ => true) 3 .count = some u ∧
        u.answer = .ok (.error .lockPoisoned) := by
  have hsound : (ofStore .empty).run visits =
      some ⟨[⟨⟨#[⟨.name "a", "p", some (.literal "o"), 0⟩]⟩, false⟩], [0, 0, 0]⟩ := rfl
  have hbroken : (ofStore .empty).run (visits ++ [refusedAddition, .share 0]) =
      some ⟨[⟨⟨#[⟨.name "a", "p", some (.literal "o"), 0⟩]⟩, true⟩], [0, 0, 0, 0]⟩ := rfl
  obtain ⟨hanswers, -, -⟩ := handles_answer_as_plain .empty hsound
  obtain ⟨hturned, -, -⟩ := handles_answer_as_plain .empty hbroken
  have hbreaks : (ofStore .empty).WriterBrokeOff (visits ++ [refusedAddition, .share 0]) :=
    ⟨visits, refusedAddition, [.share 0], _, rfl, hsound, rfl, _, {}, rfl, rfl⟩
  have hnone : ¬ (ofStore .empty).WriterBrokeOff visits := by
    intro h
    obtain ⟨u, hu, hu'⟩ := (hanswers 0 (by decide)).2 Nat (fun _ => true) .count
    cases hu
    cases hu'.2 h
  refine ⟨_, _, hsound, hbroken, hnone, hbreaks, ?_, ?_, ?_⟩
  · obtain ⟨u, hu, hu'⟩ := (hanswers 2 (by decide)).2 _ (fun _ => true) (.select .ids .everything)
    exact ⟨u, hu, (hu'.1 hnone).1⟩
  · obtain ⟨u, hu, hu'⟩ := (hanswers 1 (by decide)).2 _ (fun _ => true)
      (.select ((Term.attributeOf "q").typed Int) .everything)
    exact ⟨u, hu, (hu'.1 hnone).1⟩
  · obtain ⟨u, hu, hu'⟩ := (hturned 3 (by decide)).2 _ (fun _ => true) .count
    exact ⟨u, hu, hu'.2 hbreaks⟩

end SharedStore

end TripleStore
