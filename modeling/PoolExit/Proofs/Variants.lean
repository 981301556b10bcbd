import PoolExit.Proofs.Drafting
import PoolExit.Proofs.LadderShape
import PoolExit.Proofs.Play

/-!
# The drafts of a task

What is asked and answered on a climb says which variants there are, and the variants say which task
there is, if there is one.  So the conversation of a plan falls into the listings of the venues and
one climb for each candidate, and the plan is what these climbs make (`drafted_of_goes_plan`).
-/

namespace PoolExit

namespace Planning

open Talk

variable {s : PlanSettings} {c : Candidate} {fees : List UInt64} {variants : List Variant}
  {asked : List Exchange} {ts : List Turn}

namespace Climbs

/-- No fee is left out before the last one that is asked for. -/
lemma calls (climbs : Climbs s c fees variants asked) :
    asked.map Exchange.call <+: fees.map (callFor s c) := by
  induction climbs with
  | done => exact List.prefix_rfl
  | fails fee rest e => exact (List.prefix_cons_inj _).2 List.nil_prefix
  | builds fee draft further ih => exact (List.prefix_cons_inj _).2 ih

/-- Each variant holds what was answered for its fee. -/
lemma drafts (climbs : Climbs s c fees variants asked) : ∀ {n : Nat} {v : Variant},
    variants[n]? = some v →
      fees[n]? = some v.feeLevel ∧ asked[n]? = some ⟨callFor s c v.feeLevel, .ok v.draft⟩ := by
  induction climbs with
  | done => nofun
  | fails fee rest e => nofun
  | builds fee draft further ih =>
    intro n v found
    cases n with
    | zero =>
      obtain rfl := Option.some.inj found
      exact ⟨rfl, rfl⟩
    | succ n => exact ih found

/-- Behind the variants there is at most one more call, the one that failed; without it there is a
variant for every fee. -/
lemma stops (climbs : Climbs s c fees variants asked) :
    (variants.length = fees.length ∧ asked.length = variants.length) ∨
      ∃ fee e, fees[variants.length]? = some fee ∧
        asked.drop variants.length = [⟨callFor s c fee, .error e⟩] := by
  induction climbs with
  | done => exact .inl ⟨rfl, rfl⟩
  | fails fee rest e => exact .inr ⟨fee, e, rfl, rfl⟩
  | builds fee draft further ih =>
    rcases ih with ⟨all, whole⟩ | ⟨fee', e, next, last⟩
    · exact .inl ⟨congrArg (· + 1) all, congrArg (· + 1) whole⟩
    · exact .inr ⟨fee', e, next, last⟩

lemma callFor_injective (s : PlanSettings) (c : Candidate) :
    Function.Injective (callFor s c) := by
  intro fee fee' same
  exact congrArg BuildOrder.feeLevel (Call.build.inj same).2

/-- Where no fee comes twice, nothing is asked for twice. -/
lemma nodup (climbs : Climbs s c fees variants asked) (distinct : fees.Nodup) :
    (asked.map Exchange.call).Nodup :=
  (distinct.map (callFor_injective s c)).sublist climbs.calls.sublist

/-- Where the first draft fails, there is no variant and nothing else is asked for. -/
lemma failed (climbs : Climbs s c fees variants asked) (distinct : fees.Nodup) {fee : UInt64}
    {e : VenueError} (lowest : fees.head? = some fee)
    (failed : ⟨callFor s c fee, .error e⟩ ∈ asked) :
    variants = [] ∧ asked = [⟨callFor s c fee, .error e⟩] := by
  have once := climbs.nodup distinct
  cases climbs with
  | done => cases lowest
  | fails fee' rest e' =>
    obtain rfl := Option.some.inj lowest
    exact ⟨rfl, by rw [List.mem_singleton.1 failed]⟩
  | builds fee' draft further =>
    obtain rfl := Option.some.inj lowest
    rcases List.mem_cons.1 failed with first | later
    · cases first
    · exact absurd (List.mem_map_of_mem later) (List.nodup_cons.1 once).1

end Climbs

/-- What planning does for a candidate: the variants that it gets, and what is asked and answered on
the way. -/
structure Climb where
  candidate : Candidate
  variants : List Variant
  asked : List Exchange

/-- The task of a climb, if there is one. -/
def Climb.task (k : Climb) : Option Task := taskOf k.candidate k.variants

/-! ## Climbs of the program -/

/-- A candidate gets its task in one climb of the ladder. -/
lemma climbs_of_goes_buildTask {r : Except VenueError Task} (go : Goes (buildTask s c) ts r) :
    ∃ variants, Climbs s c s.feeLevels variants (conversation ts) ∧
      built (c, r) = taskOf c variants := by
  rcases first_of_goes_buildTask go with
    ⟨e, talked, rfl⟩ | ⟨draft, higher, asked, t, talked, climbs, task, rfl⟩
  · exact ⟨[], talked ▸ .fails _ _ e, rfl⟩
  · exact ⟨_, talked ▸ .builds _ draft climbs, task.symm⟩

lemma climbs_of_goes_buildTasks : ∀ {cs : List Candidate} {ts : List Turn}
    {results : List (Candidate × Except VenueError Task)}, Goes (buildTasks s cs) ts results →
    ∃ climbs : List Climb, climbs.map Climb.candidate = cs ∧
      conversation ts = climbs.flatMap Climb.asked ∧
      results.filterMap built = climbs.filterMap Climb.task ∧
      ∀ k ∈ climbs, Climbs s k.candidate s.feeLevels k.variants k.asked
  | [], _, _, go => by
      obtain ⟨rfl, rfl⟩ := goes_pure.1 go
      exact ⟨[], rfl, rfl, rfl, by simp⟩
  | c :: rest, _, _, go => by
      obtain ⟨result, us, _, rfl, building, next⟩ := goes_bind.1 go
      obtain ⟨others, _, _, rfl, later, done⟩ := goes_bind.1 next
      obtain ⟨rfl, rfl⟩ := goes_pure.1 done
      obtain ⟨variants, climbs, task⟩ := climbs_of_goes_buildTask building
      obtain ⟨more, rfl, talked, tasks, laws⟩ := climbs_of_goes_buildTasks later
      refine ⟨⟨c, variants, conversation us⟩ :: more, rfl, ?_, ?_,
        List.forall_mem_cons.2 ⟨climbs, laws⟩⟩
      · rw [List.append_nil, conversation_append, talked, List.flatMap_cons]
      · rw [List.filterMap_cons, List.filterMap_cons, task, tasks, Climb.task]

/-- In planning the venues are asked for their positions, and then there is a climb for each
candidate; the plan holds the tasks of the climbs. -/
lemma climbs_of_goes_plan {adapters : List Adapter} {stoppable : Bool} {made : Plan}
    (go : Goes (plan adapters s stoppable) ts (some made)) :
    ∃ (told : List ((Adapter × Nat) × Except VenueError (List Listing))) (climbs : List Climb),
      told.map Prod.fst = enabled adapters s ∧
      climbs.map Climb.candidate =
        (told.flatMap fun x => sift s x.1.2 x.1.1 x.2).filterMap Finding.candidate? ∧
      conversation ts =
        told.map (fun x => ⟨.discover x.1.2 s.owner, x.2⟩) ++ climbs.flatMap Climb.asked ∧
      made.feeLevels = s.feeLevels ∧
      made.tasks = claimsFirst (climbs.filterMap Climb.task) ∧
      ∀ k ∈ climbs, Climbs s k.candidate s.feeLevels k.variants k.asked := by
  obtain ⟨findings, results, _, _, finding, laying, talked, rfl⟩ := rounds_of_goes_plan go
  obtain ⟨told, adapters, listed, rfl⟩ := findings_of_goes_discover finding
  obtain ⟨climbs, candidates, drafted, tasks, laws⟩ := climbs_of_goes_buildTasks laying
  refine ⟨told, climbs, adapters, candidates, ?_, rfl, congrArg claimsFirst tasks, laws⟩
  rw [talked, listed, drafted]

/-- Every task of a plan is that of a climb. -/
lemma exists_climb {made : Plan} {climbs : List Climb}
    (tasks : made.tasks = claimsFirst (climbs.filterMap Climb.task)) {t : Task}
    (mem : t ∈ made.tasks) : ∃ k ∈ climbs, k.task = some t := by
  rw [tasks] at mem
  exact List.mem_filterMap.1 ((perm_claimsFirst _).subset mem)

/-! ## The law -/

/-- A task that a candidate has got, where this was asked and answered for it at these fees. -/
structure Drafted (s : PlanSettings) (c : Candidate) (fees : List UInt64) (asked : List Exchange)
    (t : Task) : Prop where
  filled : t.variants ≠ []
  levels : t.variants.map Variant.feeLevel <+: fees
  lowest : fees.head? = some t.primaryFeeLevel
  primary : t.variants.head? = some ⟨t.primaryFeeLevel, t.primary⟩
  drafts : ∀ (n : Nat) (v : Variant), t.variants[n]? = some v →
    fees[n]? = some v.feeLevel ∧ asked[n]? = some ⟨callFor s c v.feeLevel, .ok v.draft⟩
  attempts : t.attempts = t.variants
  /-- Either no fee is left and nothing more was asked for, or one more draft was, at the next fee,
  and failed. -/
  stops : (t.variants.length = fees.length ∧ asked.length = t.variants.length) ∨
    ∃ fee e, fees[t.variants.length]? = some fee ∧
      asked.drop t.variants.length = [⟨callFor s c fee, .error e⟩]
  venue : t.venue = c.position.venue
  kind : t.kind = c.action.kind
  pool : t.pool = c.position.pool
  companion : t.companion = c.position.companion
  action : t.action = c.action
  position : t.position = c.position

/-- What planning does for a candidate is in order: nothing is asked for twice, and where there is a
task it is what was drafted.  There is none exactly if the first draft failed, and then no other was
asked for. -/
structure Climb.Lawful (s : PlanSettings) (fees : List UInt64) (k : Climb) : Prop where
  once : (k.asked.map Exchange.call).Nodup
  task : ∀ t, k.task = some t → Drafted s k.candidate fees k.asked t
  failed : ∀ fee e, fees.head? = some fee → ⟨callFor s k.candidate fee, .error e⟩ ∈ k.asked →
    k.task = none ∧ k.asked = [⟨callFor s k.candidate fee, .error e⟩]
  undrafted : k.task = none → ∃ fee e, fees.head? = some fee ∧
    ⟨callFor s k.candidate fee, .error e⟩ ∈ k.asked

lemma Climbs.drafted (climbs : Climbs s c fees variants asked) {t : Task}
    (task : taskOf c variants = some t) : Drafted s c fees asked t := by
  cases variants with
  | nil => cases task
  | cons v variants =>
    obtain rfl := Option.some.inj task
    have lowest : fees[0]? = some v.feeLevel := (climbs.drafts rfl).1
    rw [← List.head?_eq_getElem?] at lowest
    exact {
      filled := List.cons_ne_nil _ _
      levels := climbs.levels
      lowest
      primary := rfl
      drafts := fun n v found => climbs.drafts found
      attempts := rfl
      stops := climbs.stops
      venue := rfl
      kind := rfl
      pool := rfl
      companion := rfl
      action := rfl
      position := rfl }

/-- Without a variant the first draft was asked for and failed. -/
lemma Climbs.undrafted (climbs : Climbs s c fees [] asked) (nonempty : fees ≠ []) :
    ∃ fee e, fees.head? = some fee ∧ ⟨callFor s c fee, .error e⟩ ∈ asked := by
  cases climbs with
  | done => exact absurd rfl nonempty
  | fails fee rest e => exact ⟨fee, e, rfl, List.mem_singleton_self _⟩

lemma Climbs.lawful {k : Climb} (climbs : Climbs s k.candidate fees k.variants k.asked)
    (nonempty : fees ≠ []) (distinct : fees.Nodup) : k.Lawful s fees where
  once := climbs.nodup distinct
  task _ task := climbs.drafted task
  failed _ _ lowest failed := (climbs.failed distinct lowest failed).imp taskOf_eq_none.2 id
  undrafted untasked := by
    have none : k.variants = [] := taskOf_eq_none.1 untasked
    exact (none ▸ climbs).undrafted nonempty

/-- **The drafts of a task.**  In planning the venues are asked for their positions, and then for
the drafts of one candidate after the other.  Whatever they answer, and for every ladder, each
candidate is asked for each fee once at most, from the lowest one on.  It has a task if its first
draft was built, and the variants of the task are all drafts that were built for it: they have the
lowest fees of the ladder, without a gap, and the first one is the primary draft.  Nothing is asked
for beyond the first fee that fails. -/
theorem drafted_of_goes_plan {adapters : List Adapter} {stoppable : Bool} {made : Plan}
    (go : Goes (plan adapters s stoppable) ts (some made)) :
    ∃ (told : List ((Adapter × Nat) × Except VenueError (List Listing))) (climbs : List Climb),
      told.map Prod.fst = enabled adapters s ∧
      climbs.map Climb.candidate =
        (told.flatMap fun x => sift s x.1.2 x.1.1 x.2).filterMap Finding.candidate? ∧
      conversation ts =
        told.map (fun x => ⟨.discover x.1.2 s.owner, x.2⟩) ++ climbs.flatMap Climb.asked ∧
      made.feeLevels = s.feeLevels ∧
      made.tasks = claimsFirst (climbs.filterMap Climb.task) ∧
      (∀ k ∈ climbs, k.Lawful s made.feeLevels) ∧
      ∀ t ∈ made.tasks, ∃ k ∈ climbs, k.task = some t ∧
        Drafted s k.candidate made.feeLevels k.asked t := by
  obtain ⟨told, climbs, enabled, candidates, talked, fees, tasks, laws⟩ := climbs_of_goes_plan go
  have lawful : ∀ k ∈ climbs, k.Lawful s made.feeLevels := fun k mem => by
    rw [fees]
    exact (laws k mem).lawful (List.cons_ne_nil _ _) (s.ladder.nodup_rungs s.feeLevelBase)
  refine ⟨told, climbs, enabled, candidates, talked, fees, tasks, lawful, fun t mem => ?_⟩
  obtain ⟨k, climbed, task⟩ := exists_climb tasks mem
  exact ⟨k, climbed, task, (lawful k climbed).task t task⟩

/-- Two of three fees get a draft for a claim, and the withdrawal fails at the first fee: after one
listing, three orders for the claim and one for the withdrawal make a plan of one task. -/
theorem drafted_two_of_three :
    let adapters : List Adapter :=
      [⟨.feeVault, fun _ => .ok { Sample.position with liquidity := 1 }⟩]
    let s : PlanSettings := { (Sample.setup false).planSettings Sample.options with
      feeLevelBase := 250000, ladder := {}, includeWithdrawals := true }
    let smooth := Sample.world (fun _ => ⟨Sample.transaction [Sample.owner] 0, 100⟩) id
    let w : World := { smooth with
      answer := fun past c => match c with
        | .build adapter order =>
            if order.action = .claim ∧ order.feeLevel < 400000 then
              smooth.answer past (.build adapter order)
            else .error (.missingField "transaction")
        | c => smooth.answer past c }
    ∃ ts made, w.play {} [] (plan adapters s true) = (ts, some made) ∧
      (conversation ts).length = 5 ∧ made.feeLevels = [250000, 337500, 455000] ∧
      made.tasks.map (fun t => t.variants.map Variant.feeLevel) = [[250000, 337500]] ∧
      ∀ t ∈ made.tasks, ∃ c asked, Drafted s c made.feeLevels asked t := by
  intro adapters s smooth w
  have go := World.goes_play (w := w) (plan adapters s true) {} []
  have length : (conversation (w.play {} [] (plan adapters s true)).1).length = 5 := by
    decide +kernel
  have levels : (w.play {} [] (plan adapters s true)).2.map (fun made =>
      (made.feeLevels, made.tasks.map fun t => t.variants.map Variant.feeLevel)) =
        some ([250000, 337500, 455000], [[250000, 337500]]) := by
    decide +kernel
  generalize w.play {} [] (plan adapters s true) = played at go length levels
  obtain ⟨ts, _ | made⟩ := played
  · cases levels
  · obtain ⟨fees, variants⟩ := Prod.mk.inj (Option.some.inj levels)
    obtain ⟨told, climbs, -, -, -, -, -, -, drafted⟩ := drafted_of_goes_plan go
    refine ⟨ts, made, rfl, length, fees, variants, fun t mem => ?_⟩
    obtain ⟨k, -, -, law⟩ := drafted t mem
    exact ⟨k.candidate, k.asked, law⟩

end Planning

end PoolExit
