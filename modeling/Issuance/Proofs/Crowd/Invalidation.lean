import Issuance.Proofs.Crowd.Ledger
import Issuance.Proofs.Provisioner.Registration

namespace Issuance

namespace ProvisionerCrowd

namespace Move

/-- The cache forgets a key. -/
def Forgets (key : AuthorityKey) : Move → Prop
  | invalidate other => other = key
  | clear => True
  | _ => False

/-- The slot of a key after a move. -/
def slotAfter (key : AuthorityKey) (slot : Option Nat) : Move → Option Nat
  | join _ _ => slot
  | perform _ observation =>
    match observation.entry? with
    | some (other, entered) => if key = other then some entered else slot
    | none => slot
  | invalidate other => if key = other then none else slot
  | clear => none

end Move

/-- The slot that the last caller of a key entered, when the key was not forgotten since. -/
def lastSlot? (key : AuthorityKey) (moves : List Move) : Option Nat :=
  moves.foldl (Move.slotAfter key) none

/-- A build for a slot has succeeded, and its caller has put the provisioner in the slot. -/
def HasFilled (moves : List Move) (slot : Nat) : Prop :=
  ∃ place provisioner, .perform place ⟨.finishBuild provisioner, .ok ()⟩ ∈ moves ∧
    .perform place ⟨.settleSlot slot (some provisioner), ()⟩ ∈ moves

/-- A build for the slot of the key has succeeded. -/
def Remembers (moves : List Move) (key : AuthorityKey) : Prop :=
  ∃ slot, lastSlot? key moves = some slot ∧ HasFilled moves slot

variable {first current last next : ProvisionerCrowd} {key other : AuthorityKey}
  {spec wanted : IssuerSpec} {moves before after : List Move} {move : Move}
  {place slot number : Nat}
  {observation : Observation} {call moved : ProvisionerCall} {provisioner : Provisioner}

/-- Each move changes the slots of the keys as the history tells. -/
theorem Takes.current? (takes : Takes current move next) (staged : current.IsStaged)
    (key : AuthorityKey) : next.shared.cache.current? key =
      move.slotAfter key (current.shared.cache.current? key) := by
  cases move with
  | join other spec =>
      cases takes
      rfl
  | perform place observation =>
      obtain ⟨call, moved, performs⟩ := takes.performs
      rcases performs.enters_or_stays (staged call (List.mem_of_getElem? performs.here)) with
        ⟨slot, rfl, _, _, took, entered⟩ | ⟨none, _, same⟩
      · rw [entered, ProvisionerCache.current?_enter, ← took]
        rfl
      · simp only [Move.slotAfter, none, ProvisionerCache.current?, same.registered]
  | invalidate other =>
      cases takes
      exact ProvisionerCache.current?_invalidate
  | clear =>
      cases takes
      rfl

theorem Run.current? (run : Run ⟨{}, []⟩ moves last) (key : AuthorityKey) :
    last.shared.cache.current? key = lastSlot? key moves := by
  induction run with
  | start => rfl
  | move run takes ih =>
      rw [takes.current? (run.reachable .start).isStaged, ih, lastSlot?, lastSlot?,
        List.foldl_concat]

/-- Each move leaves every key with at most one slot. -/
theorem Takes.nodup_keys (takes : Takes current move next) (staged : current.IsStaged)
    (distinct : current.shared.cache.keys.Nodup) : next.shared.cache.keys.Nodup := by
  cases move with
  | join other spec =>
      cases takes
      exact distinct
  | perform place observation =>
      obtain ⟨call, moved, performs⟩ := takes.performs
      rcases performs.enters_or_stays (staged call (List.mem_of_getElem? performs.here)) with
        ⟨_, _, _, _, _, entered⟩ | ⟨_, _, same⟩
      · rw [entered]
        exact ProvisionerCache.nodup_enter distinct call.key call.spec
      · rwa [ProvisionerCache.keys, same.registered]
  | invalidate other =>
      cases takes
      exact ProvisionerCache.nodup_invalidate distinct other
  | clear =>
      cases takes
      exact List.nodup_nil

theorem Reachable.nodup_keys (reachable : Reachable last) : last.shared.cache.keys.Nodup := by
  induction reachable with
  | start => exact List.nodup_nil
  | step reachable step ih =>
      obtain ⟨move, takes⟩ := step_iff.mp step
      exact takes.nodup_keys reachable.isStaged ih

/-- A new slot of a key is one that no slot was made after. -/
theorem Takes.current?_or_new (takes : Takes current move next) (staged : current.IsStaged)
    (found : next.shared.cache.current? key = some slot) :
    current.shared.cache.current? key = some slot ∨ slot = current.shared.cache.slots.length := by
  have changed := takes.current? staged key
  rw [found] at changed
  cases move with
  | join other spec => exact .inl changed.symm
  | perform place observation =>
      obtain ⟨call, moved, performs⟩ := takes.performs
      rcases performs.enters_or_stays (staged call (List.mem_of_getElem? performs.here)) with
        ⟨entered, rfl, _, _, took, _⟩ | ⟨none, _, _⟩
      · simp only [Move.slotAfter, Observation.entry?] at changed
        split at changed
        · next own =>
          subst own
          obtain rfl := Option.some.inj changed
          rw [took]
          exact ProvisionerCache.enter_fst
        · exact .inl changed.symm
      · simp only [Move.slotAfter, none] at changed
        exact .inl changed.symm
  | invalidate other =>
      simp only [Move.slotAfter] at changed
      split at changed
      · cases changed
      · exact .inl changed.symm
  | clear => cases changed

/-- A key that has no slot gets only new ones. -/
theorem Run.length_le_of_current? (run : Run first moves last) (reachable : Reachable first)
    (absent : first.shared.cache.current? key = none)
    (found : last.shared.cache.current? key = some slot) :
    first.shared.cache.slots.length ≤ slot := by
  induction run generalizing slot with
  | start => cases absent.symm.trans found
  | move run takes ih =>
      rcases takes.current?_or_new (run.reachable reachable).isStaged found with before | rfl
      · exact ih before
      · exact run.length_slots reachable

/-- A caller of a key that had no slot enters a new one. -/
theorem Run.length_le_of_entered (run : Run first moves last) (reachable : Reachable first)
    (absent : first.shared.cache.current? key = none)
    (entered : .perform place ⟨.enterSlot key spec, slot⟩ ∈ moves) :
    first.shared.cache.slots.length ≤ slot := by
  obtain ⟨before, after, split⟩ := List.append_of_mem entered
  obtain ⟨current, next, early, takes, _⟩ := run.split_at split
  apply (early.move takes).length_le_of_current? reachable absent
  rw [takes.current? (early.reachable reachable).isStaged]
  exact if_pos rfl

/-- When a key is forgotten, it has no slot, and the slots stay. -/
theorem Takes.forgets (takes : Takes current move next) (forgets : move.Forgets key) :
    next.shared.cache.current? key = none ∧
      next.shared.cache.slots.length = current.shared.cache.slots.length := by
  cases takes with
  | invalidate shared calls other =>
      exact ⟨ProvisionerCache.current?_invalidate.trans (if_pos forgets.symm), rfl⟩
  | clear shared calls => exact ⟨rfl, rfl⟩
  | join => cases forgets
  | perform => cases forgets

/-- A call fills no slot but its own. -/
theorem Performs.held?_of_ne (performs : current.Performs place call moved observation next)
    (reachable : Reachable current) (entered : moved.stage.slot? = some slot)
    (different : number ≠ slot) (reached : Reachable next)
    (held : next.shared.cache.held? number = some provisioner) :
    current.shared.cache.held? number = some provisioner := by
  obtain ⟨builder, present, provided, made⟩ := reached.exists_provided held
  rw [performs.calls] at present
  rcases List.mem_or_eq_of_mem_set present with old | rfl
  · exact reachable.isBalanced.held? old provided made
  · rw [provided] at entered
    exact absurd (Option.some.inj entered) different

/-- What a call performs is not the forgetting of a key. -/
theorem Move.Forgets.mem_after (forgets : move.Forgets key)
    (member : .perform place observation ∈ before ++ move :: after)
    (absent : .perform place observation ∉ before) : .perform place observation ∈ after := by
  rcases List.mem_append.mp member with early | late
  · exact absurd early absent
  · rcases List.mem_cons.mp late with rfl | later
    · exact forgets.elim
    · exact later

section History

variable (run : Run ⟨{}, []⟩ moves last)

include run

/-- The history tells the slot of a call. -/
theorem Run.slot?_eq (here : last.calls[place]? = some call)
    (entered : .perform place ⟨.enterSlot key spec, slot⟩ ∈ moves) :
    call.stage.slot? = some slot ∧ call.key = key ∧ call.spec = spec := by
  have seen := (run.mem_observed here).mpr entered
  have staged := (run.reachable .start).isStaged call (List.mem_of_getElem? here)
  exact CallStage.slot?_of_enterSlot_mem (staged.observed ▸ seen)

/-- Who has started a build has entered one of the slots. -/
theorem Run.exists_entered (started : .perform place ⟨.startBuild key spec, number⟩ ∈ moves) :
    ∃ slot, .perform place ⟨.enterSlot key spec, slot⟩ ∈ moves ∧
      slot < last.shared.cache.slots.length := by
  obtain ⟨call, here, seen⟩ := run.exists_observed started
  have reachable := run.reachable .start
  have member := List.mem_of_getElem? here
  have staged := reachable.isStaged call member
  obtain ⟨⟨slot, entered⟩, rfl, rfl⟩ :=
    CallStage.startBuild_mem_observed (staged.observed ▸ seen)
  refine ⟨slot, (run.mem_observed here).mp ?_, (reachable.offers member entered).lt_length⟩
  exact staged.observed ▸ CallStage.enterSlot_mem_observed entered

/-- A build gets a number that no build had before. -/
theorem Run.startBuild_notMem
    (split : moves = before ++ .perform place ⟨.startBuild key spec, number⟩ :: after)
    (builder : Nat) (other : AuthorityKey) (wanted : IssuerSpec) :
    .perform builder ⟨.startBuild other wanted, number⟩ ∉ before := by
  intro earlier
  obtain ⟨current, next, early, takes, _⟩ := run.split_at split
  obtain ⟨call, moved, performs⟩ := takes.performs
  obtain ⟨first, here, seen⟩ := early.exists_observed earlier
  have sound := (early.reachable .start).isSound
  have started := (sound.calls first (List.mem_of_getElem? here)).holds _ seen
  exact performs.admitted _ started rfl

/-- A slot holds a provisioner when a build for it has succeeded. -/
theorem Run.hasFilled_iff : HasFilled moves slot ↔
    ∃ provisioner, last.shared.cache.held? slot = some provisioner := by
  have reachable := run.reachable .start
  constructor
  · rintro ⟨place, provisioner, _, settled⟩
    obtain ⟨call, here, seen⟩ := run.exists_observed settled
    have member := List.mem_of_getElem? here
    obtain ⟨provided, made⟩ := CallStage.settleSlot_mem_observed
      ((reachable.isStaged call member).observed ▸ seen)
    exact ⟨provisioner, reachable.isBalanced.held? member provided made⟩
  · rintro ⟨provisioner, held⟩
    obtain ⟨call, member, provided, made⟩ := reachable.exists_provided held
    obtain ⟨place, here⟩ := List.mem_iff_getElem?.mp member
    have observed := (reachable.isStaged call member).observed
    rw [provided] at observed
    refine ⟨place, provisioner, (run.mem_observed here).mp ?_, (run.mem_observed here).mp ?_⟩
    · rw [observed]
      simp [CallStage.observed, ← made]
    · rw [observed]
      simp [CallStage.observed, ← made]

/-- The cache counts the keys that the history remembers. -/
theorem Run.remembers_iff : Remembers moves key ↔ last.shared.cache.Counts key := by
  unfold Remembers ProvisionerCache.Counts
  simp only [run.hasFilled_iff, ← run.current?, exists_and_left]

theorem Run.encard_remembers :
    {key | Remembers moves key}.encard = last.shared.cache.size := by
  rw [← ProvisionerCache.encard_counts (run.reachable .start).nodup_keys]
  congr 1
  ext key
  exact run.remembers_iff

/-- A call that returns what it has built has filled its slot. -/
theorem Run.exists_hasFilled (here : last.calls[place]? = some call) (returned : call.IsOver)
    (finished : .perform place ⟨.finishBuild provisioner, .ok ()⟩ ∈ moves) :
    ∃ slot, .perform place ⟨.enterSlot call.key call.spec, slot⟩ ∈ moves ∧
      HasFilled moves slot := by
  have reachable := run.reachable .start
  have member := List.mem_of_getElem? here
  have staged := reachable.isStaged call member
  obtain ⟨made, slot, stage⟩ := CallStage.finishBuild_mem_observed
    (staged.observed ▸ (run.mem_observed here).mpr finished)
  rcases stage with built | provided
  · rw [ProvisionerCall.IsOver, staged.result?_eq, built] at returned
    cases returned
  · have held := reachable.isBalanced.held? member provided made
    refine ⟨slot, (run.mem_observed here).mp ?_, run.hasFilled_iff.mpr ⟨provisioner, held⟩⟩
    rw [staged.observed, provided]
    exact List.mem_cons_self

/-- When a key is forgotten, its later callers get later slots than all that have started builds. -/
theorem Run.exists_boundary (split : moves = before ++ move :: after)
    (forgets : move.Forgets key) :
    ∃ boundary,
      (∀ builder other wanted number,
        .perform builder ⟨.startBuild other wanted, number⟩ ∈ before →
          ∃ slot, .perform builder ⟨.enterSlot other wanted, slot⟩ ∈ moves ∧ slot < boundary) ∧
      (∀ place spec slot, .perform place ⟨.enterSlot key spec, slot⟩ ∈ after → boundary ≤ slot) ∧
      ∀ slot, last.shared.cache.current? key = some slot → boundary ≤ slot := by
  obtain ⟨current, next, early, takes, late⟩ := run.split_at split
  obtain ⟨absent, same⟩ := takes.forgets forgets
  have reachable := (early.move takes).reachable .start
  refine ⟨next.shared.cache.slots.length, ?_, ?_, ?_⟩
  · intro builder other wanted number started
    obtain ⟨slot, entered, inside⟩ := early.exists_entered started
    exact ⟨slot, split ▸ List.mem_append_left _ entered, same ▸ inside⟩
  · intro place spec slot entered
    exact late.length_le_of_entered reachable absent entered
  · intro slot found
    exact late.length_le_of_current? reachable absent found

/-- A call that begins after its key is forgotten gets what was built after that. -/
theorem Run.started_after (split : moves = before ++ move :: after) (forgets : move.Forgets key)
    (here : last.calls[place]? = some call) (own : call.key = key)
    (idle : ∀ observation, .perform place observation ∉ before)
    (ended : call.result? = some (.ok provisioner)) :
    ∃ builder, .perform builder ⟨.startBuild key call.spec, provisioner.number⟩ ∈ after := by
  have reachable := run.reachable .start
  have member := List.mem_of_getElem? here
  obtain ⟨boundary, early, late, _⟩ := run.exists_boundary split forgets
  obtain ⟨slot, entered, held⟩ := reachable.exists_held member ended
  obtain ⟨builder, present, provided, made⟩ := reachable.exists_provided held
  obtain ⟨index, there⟩ := List.mem_iff_getElem?.mp present
  have filled := congrArg CallStage.slot? provided
  obtain ⟨sameKey, sameSpec⟩ :=
    (reachable.offers member entered).unique (reachable.offers present filled)
  have joined : Move.perform place ⟨.enterSlot key call.spec, slot⟩ ∈ moves := by
    rw [← run.mem_observed here, (reachable.isStaged call member).observed, ← own]
    exact CallStage.enterSlot_mem_observed entered
  have started : Move.perform index ⟨.startBuild key call.spec, provisioner.number⟩ ∈ moves := by
    rw [← run.mem_observed there, (reachable.isStaged builder present).observed, provided,
      sameKey, sameSpec, own]
    simp [CallStage.observed, CallStage.starting]
  rw [split] at joined started
  have new := late place call.spec slot (forgets.mem_after joined (idle _))
  -- The slot of a build from before lies below the boundary, and this one does not.
  refine ⟨index, forgets.mem_after started fun old => ?_⟩
  obtain ⟨other, took, inside⟩ := early index key call.spec provisioner.number old
  obtain rfl := Option.some.inj ((run.slot?_eq there took).1.symm.trans filled)
  exact absurd inside (Nat.not_lt.mpr new)

/-- What a call does whose key was forgotten after it started its build lets no key count. -/
theorem Run.remembers_orphaned (split : moves = before ++ move :: after)
    (forgets : move.Forgets key)
    (started : .perform place ⟨.startBuild key wanted, number⟩ ∈ before)
    (takes : Takes last (.perform place observation) next) (other : AuthorityKey) :
    Remembers (moves ++ [.perform place observation]) other ↔ Remembers moves other := by
  have reachable := run.reachable .start
  obtain ⟨boundary, early, _, current⟩ := run.exists_boundary split forgets
  obtain ⟨slot, entered, inside⟩ := early place key wanted number started
  obtain ⟨call, moved, performs⟩ := takes.performs
  have member := List.mem_of_getElem? performs.here
  obtain ⟨took, rfl, _⟩ := run.slot?_eq performs.here entered
  rw [(run.move takes).remembers_iff, run.remembers_iff]
  unfold ProvisionerCache.Counts
  rcases performs.enters_or_stays (reachable.isStaged call member) with
    ⟨_, _, absent, _⟩ | ⟨_, stays, same⟩
  · cases absent.symm.trans took
  have unchanged : next.shared.cache.current? other = last.shared.cache.current? other := by
    rw [ProvisionerCache.current?, same.registered, ProvisionerCache.current?]
  rw [unchanged]
  constructor
  · rintro ⟨registered, provisioner, found, held⟩
    -- Slots that are registered for the key lie above the boundary, so the call fills another one.
    have different : registered ≠ slot := by
      rintro rfl
      obtain ⟨spec, offers⟩ := reachable.isSound.shared.cache.exists_offers found
      obtain ⟨rfl, _⟩ := offers.unique (reachable.offers member took)
      exact absurd inside (Nat.not_lt.mpr (current registered found))
    refine ⟨registered, provisioner, found, ?_⟩
    exact performs.held?_of_ne reachable (stays.trans took) different
      ((run.move takes).reachable .start) held
  · rintro ⟨registered, provisioner, found, held⟩
    exact ⟨registered, provisioner, found, takes.held? reachable held⟩

end History

/-- The size is the number of keys whose last slot was filled by a build since the key was forgotten
last. A call that begins after its key is forgotten gets only what was built after that, and what a
call does whose key was forgotten after it started its build lets no key count. -/
structure ForgetsBuilds (moves : List Move) (last : ProvisionerCrowd) : Prop where
  size : {key | Remembers moves key}.encard = last.shared.cache.size
  isEmpty : last.shared.cache.isEmpty = true ↔ ∀ key, ¬ Remembers moves key
  filled : ∀ place call provisioner, last.calls[place]? = some call → call.IsOver →
    .perform place ⟨.finishBuild provisioner, .ok ()⟩ ∈ moves →
      ∃ slot, .perform place ⟨.enterSlot call.key call.spec, slot⟩ ∈ moves ∧ HasFilled moves slot
  barrier : ∀ before move after key, moves = before ++ move :: after → move.Forgets key →
    ∀ place call provisioner, last.calls[place]? = some call → call.key = key →
      (∀ observation, .perform place observation ∉ before) →
        call.result? = some (.ok provisioner) →
          (∃ builder, .perform builder ⟨.startBuild key call.spec, provisioner.number⟩ ∈ after) ∧
            ∀ builder other wanted,
              .perform builder ⟨.startBuild other wanted, provisioner.number⟩ ∉ before
  orphaned : ∀ before move after key, moves = before ++ move :: after → move.Forgets key →
    ∀ place wanted number, .perform place ⟨.startBuild key wanted, number⟩ ∈ before →
      ∀ observation next, Takes last (.perform place observation) next →
        (∀ other, Remembers (moves ++ [.perform place observation]) other ↔
          Remembers moves other) ∧
          next.shared.cache.size = last.shared.cache.size

end ProvisionerCrowd

/-- Whatever calls are made and whatever is forgotten in any order, nothing that was built before a
key is forgotten comes back, and the cache counts exactly the keys that it remembers. -/
theorem forgotten_build_stays_out {moves : List ProvisionerCrowd.Move} {last : ProvisionerCrowd}
    (run : ProvisionerCrowd.Run ⟨{}, []⟩ moves last) :
    ProvisionerCrowd.ForgetsBuilds moves last := by
  constructor
  case size => exact run.encard_remembers
  case isEmpty =>
    have counted := run.encard_remembers
    rw [ProvisionerCache.isEmpty, beq_iff_eq]
    constructor
    · intro none key remembers
      rw [none, Nat.cast_zero, Set.encard_eq_zero] at counted
      exact Set.notMem_empty key (counted ▸ remembers)
    · intro forgotten
      have empty : {key | ProvisionerCrowd.Remembers moves key} = ∅ :=
        Set.eq_empty_of_forall_notMem forgotten
      rw [empty, Set.encard_empty] at counted
      exact_mod_cast counted.symm
  case filled =>
    intro place call provisioner here returned finished
    exact run.exists_hasFilled here returned finished
  case barrier =>
    intro before move after key split forgets place call provisioner here own idle ended
    obtain ⟨index, started⟩ := run.started_after split forgets here own idle ended
    refine ⟨⟨index, started⟩, fun builder other wanted earlier => ?_⟩
    obtain ⟨first, rest, cut⟩ := List.append_of_mem started
    have again : moves = (before ++ move :: first) ++
        .perform index ⟨.startBuild key call.spec, provisioner.number⟩ :: rest := by
      rw [split, cut, List.append_assoc, List.cons_append]
    exact run.startBuild_notMem again builder other wanted (List.mem_append_left _ earlier)
  case orphaned =>
    intro before move after key split forgets place wanted number started observation next takes
    have same := run.remembers_orphaned split forgets started takes
    refine ⟨same, ?_⟩
    have later := (run.move takes).encard_remembers
    simp only [same] at later
    rw [run.encard_remembers] at later
    exact_mod_cast later.symm

namespace Sample

/-- The cache forgets the key while the first call builds the provisioner. After the first call has
ended, the second one finds nothing and builds it again. -/
theorem exists_forgotten :
    ∃ moves last, ProvisionerCrowd.Run ⟨{}, []⟩ moves last ∧
      last.calls.map ProvisionerCall.result? = [some (.ok provisioner), some (.ok rebuilt)] ∧
      last.shared.cache.size = 1 := by
  have joined := (ProvisionerCrowd.Run.start.move
    (.join {} [] provisioner.key issuer.spec)).move (.join _ _ provisioner.key issuer.spec)
  have started := ProvisionerCrowd.Run.goesOn [] _
    [⟨.enterSlot provisioner.key issuer.spec, 0⟩, ⟨.acquireSlot 0, none⟩,
      ⟨.startBuild provisioner.key issuer.spec, 1⟩]
    joined (.perform _ (.perform _ (.perform _ (.refl _)))) ⟨rfl, rfl, nofun, trivial⟩
  have forgotten := started.move (.invalidate _ _ provisioner.key)
  have orphaned := ProvisionerCrowd.Run.goesOn [] _
    [⟨.finishBuild provisioner, .ok ()⟩, ⟨.settleSlot 0 (some provisioner), ()⟩] forgotten
    (.perform _ (.perform _ (.refl _))) ⟨trivial, trivial, trivial⟩
  have unused : ∀ earlier ∈ [provisioner], earlier.number ≠ 2 := by decide
  have again := ProvisionerCrowd.Run.goesOn [_] []
    [⟨.enterSlot provisioner.key issuer.spec, 1⟩, ⟨.acquireSlot 1, none⟩,
      ⟨.startBuild provisioner.key issuer.spec, 2⟩, ⟨.finishBuild rebuilt, .ok ()⟩,
      ⟨.settleSlot 1 (some rebuilt), ()⟩] orphaned
    (.perform _ (.perform _ (.perform _ (.perform _ (.perform _ (.refl _))))))
    ⟨rfl, rfl, unused, trivial, trivial, trivial⟩
  exact ⟨_, _, again, rfl, rfl⟩

end Sample

/-- The first call keeps what it has built, and the cache counts what the second one has built. -/
theorem sample_forgotten_build_rebuilt :
    ∃ moves last, ProvisionerCrowd.Run ⟨{}, []⟩ moves last ∧
      last.calls.map ProvisionerCall.result? =
        [some (.ok Sample.provisioner), some (.ok Sample.rebuilt)] ∧
      last.shared.cache.size = 1 ∧ ProvisionerCrowd.ForgetsBuilds moves last := by
  obtain ⟨moves, last, run, results, size⟩ := Sample.exists_forgotten
  exact ⟨moves, last, run, results, size, forgotten_build_stays_out run⟩

end Issuance
