import PoolExit.Proofs.Drafting
import PoolExit.Proofs.Play

/-!
# Every position is accounted for

The adapters answer with rows, and every row comes to one thing.  It is refused, with one exclusion;
or it shows a position, and each action that is wanted on it and possible gets one draft ordered at
the lowest fee.  If there is a draft, there is one task, and else there is one exclusion.  The plan
has nothing else (`Planning.every_position_counts`).

Rows and actions are told apart by their places, not by what they hold: a position that is listed
twice counts twice.  That there is exactly one element for each place is said with a list of the
places that has no duplicates and runs alongside (`OneEach`).
-/

namespace PoolExit

namespace Planning

open Talk

/-! ## Rows and what is wanted of them -/

/-- A row of what an adapter listed: the place of the adapter, and the place in its list. -/
structure Row where
  index : Nat
  adapter : Adapter
  place : Nat
  listing : Listing

/-- An action on the position that a row shows. -/
structure Pair where
  candidate : Candidate
  place : Nat
deriving DecidableEq

/-- The answers to planning: what each adapter lists, the draft for the lowest fee for each action,
and what is asked and answered about higher fees. -/
structure Replies where
  lists : Nat → Except VenueError (List Listing)
  first : Pair → Except VenueError Draft
  higher : Pair → List Exchange

section

variable (adapters : List Adapter) (s : PlanSettings)
  (lists : Nat → Except VenueError (List Listing))

/-- The row was listed by an adapter whose venue is wanted. -/
structure Row.Listed (r : Row) : Prop where
  adapter : adapters[r.index]? = some r.adapter
  wanted : r.adapter.venue ∈ s.venues
  listed : ∃ listings, lists r.index = .ok listings ∧ listings[r.place]? = some r.listing

/-- The row is one of the adapter's venue, and the adapter understands it. -/
structure Row.Shows (r : Row) (p : Position) : Prop where
  own : r.listing.venue = r.adapter.venue
  resolved : r.adapter.resolve r.listing.value = .ok p

/-- Why a row is excluded: it is of another venue, the adapter does not understand it, or both its
balances are zero. -/
inductive Row.Refused (r : Row) : Exclusion → Prop
  | foreign (other : r.listing.venue ≠ r.adapter.venue) : Refused r
      ⟨r.adapter.venue, none, none, .foreignPosition r.adapter.venue r.listing.venue⟩
  | unresolved {e} (own : r.listing.venue = r.adapter.venue)
      (failed : r.adapter.resolve r.listing.value = .error e) :
      Refused r ⟨r.adapter.venue, none, none, e⟩
  | empty {p} (shows : r.Shows p) (fees : p.feesOwed = 0) (liquidity : p.liquidity = 0) :
      Refused r ⟨p.venue, some p.pool, none, .zeroBalance .withdraw⟩

/-- An action that is switched on, and for which there is a balance. -/
inductive Possible (p : Position) : Action → Prop
  | claim (on : s.includeClaims = true) (fees : 0 < p.feesOwed) : Possible p .claim
  | withdraw (on : s.includeWithdrawals = true) (liquidity : 0 < p.liquidity) :
      Possible p (.withdraw s.withdrawBps)

/-- The action is wanted and possible on the position that a row shows. -/
def Pair.Sought (q : Pair) : Prop :=
  ∃ r : Row, r.Listed adapters s lists ∧ r.index = q.candidate.adapter ∧ r.place = q.place ∧
    r.Shows q.candidate.position ∧ Possible s q.candidate.position q.candidate.action

/-- The exclusion of an action that got no draft. -/
def Pair.Unbuilt (first : Pair → Except VenueError Draft) (q : Pair) (x : Exclusion) : Prop :=
  ∃ e, first q = .error e ∧
    x = ⟨q.candidate.position.venue, some q.candidate.position.pool,
      some q.candidate.action.kind, e⟩

/-- The task of an action that got a draft. -/
def Pair.Built (first : Pair → Except VenueError Draft) (q : Pair) (t : Task) : Prop :=
  ∃ d, first q = .ok d ∧ Made s q.candidate d t

/-- The order for the draft of an action at the lowest fee. -/
def Pair.order (q : Pair) : Call :=
  .build q.candidate.adapter
    (s.order q.candidate.position q.candidate.action (s.ladder.first s.feeLevelBase))

/-- The calls of planning and their answers: each adapter is asked for its positions, and then a
draft for the lowest fee is ordered once for each action. -/
def Replies.Given (R : Replies) (talked : List Exchange) : Prop :=
  ∃ pairs : List Pair, pairs.Nodup ∧ (∀ q, q ∈ pairs ↔ q.Sought adapters s R.lists) ∧
    (∀ q ∈ pairs, ∀ e ∈ R.higher q, OrderedFor s q.candidate s.feeLevels e.call) ∧
    talked =
      (enabled adapters s).map (fun a => ⟨.discover a.2 s.owner, R.lists a.2⟩) ++
        pairs.flatMap fun q => ⟨q.order s, R.first q⟩ :: R.higher q

/-- A plan that accounts for every position, given the answers. -/
structure Accounts (R : Replies) (plan : Plan) : Prop where
  failed : plan.failedVenues =
    ((enabled adapters s).filter fun a => (R.lists a.2).toOption.isNone).map fun a => a.1.venue
  tasks : OneEach (fun q => q.Sought adapters s R.lists ∧ ∃ d, R.first q = .ok d)
    (Pair.Built s R.first) plan.tasks
  excluded : ∃ refused unbuilt, plan.excluded = refused ++ unbuilt ∧
    OneEach (fun r => r.Listed adapters s R.lists ∧ ∃ x, r.Refused x) Row.Refused refused ∧
    OneEach (fun q => q.Sought adapters s R.lists ∧ ∃ e, R.first q = .error e)
      (Pair.Unbuilt R.first) unbuilt

end

/-! ## All rows -/

/-- The listings of an answer.  A failure counts as no listings. -/
def heard (answer : Except VenueError (List Listing)) : List Listing := answer.toOption.getD []

/-- The rows of adapters. -/
def rows (lists : Nat → Except VenueError (List Listing)) (adapters : List (Adapter × Nat)) :
    List Row :=
  adapters.flatMap fun a => (heard (lists a.2)).zipIdx.map fun l => ⟨a.2, a.1, l.2, l.1⟩

/-- What is found in a row. -/
def Row.findings (s : PlanSettings) (r : Row) : List Finding :=
  siftListing s r.index r.adapter r.listing

/-- The actions that are wanted of a row. -/
def Row.pairs (s : PlanSettings) (r : Row) : List Pair :=
  ((r.findings s).filterMap Finding.candidate?).map fun c => ⟨c, r.place⟩

section

variable {adapters : List Adapter} {s : PlanSettings}
  {lists : Nat → Except VenueError (List Listing)} {r : Row}

lemma mem_rows : r ∈ rows lists (enabled adapters s) ↔ r.Listed adapters s lists := by
  constructor
  · intro mem
    obtain ⟨⟨a, index⟩, asked, listed⟩ := List.mem_flatMap.1 mem
    obtain ⟨here, wanted⟩ := List.mem_filter.1 asked
    obtain ⟨⟨l, place⟩, found, rfl⟩ := List.mem_map.1 listed
    refine ⟨List.mem_zipIdx_iff_getElem?.1 here, by simpa using wanted, ?_⟩
    have answered : ∃ listings, lists index = .ok listings ∧ (l, place) ∈ listings.zipIdx := by
      cases answer : lists index with
      | error e => simp [answer, heard, Except.toOption] at found
      | ok listings => exact ⟨listings, rfl, by simpa [answer, heard, Except.toOption] using found⟩
    obtain ⟨listings, answer, found⟩ := answered
    exact ⟨listings, answer, List.mem_zipIdx_iff_getElem?.1 found⟩
  · rintro ⟨here, wanted, listings, answer, found⟩
    refine List.mem_flatMap.2 ⟨(r.adapter, r.index), List.mem_filter.2
      ⟨List.mem_zipIdx_iff_getElem?.2 here, by simpa using wanted⟩, ?_⟩
    refine List.mem_map.2 ⟨(r.listing, r.place), ?_, rfl⟩
    simp only [heard, answer]
    exact List.mem_zipIdx_iff_getElem?.2 found

lemma nodup_enabled : ((enabled adapters s).map Prod.snd).Nodup := by
  have sub : ((enabled adapters s).map Prod.snd).Sublist (adapters.zipIdx.map Prod.snd) :=
    List.filter_sublist.map _
  refine sub.nodup ?_
  rw [List.zipIdx_map_snd]
  exact List.nodup_range'

/-- The places of rows are all different. -/
lemma nodup_places (as : List (Adapter × Nat)) (distinct : (as.map Prod.snd).Nodup) :
    ((rows lists as).map fun r => (r.index, r.place)).Nodup := by
  rw [rows, List.map_flatMap]
  refine List.nodup_flatMap.2 ⟨fun a _ => ?_, ?_⟩
  · have places : (heard (lists a.2)).zipIdx.map Prod.snd |>.Nodup := by
      rw [List.zipIdx_map_snd]
      exact List.nodup_range'
    have pairs := places.map (f := fun place => (a.2, place)) fun _ _ same => (Prod.mk.inj same).2
    rw [List.map_map] at pairs ⊢
    exact pairs
  · refine (List.pairwise_map.1 distinct).imp fun {a b} ne => ?_
    intro place here there
    simp only [List.map_map, List.mem_map, Function.comp_apply] at here there
    obtain ⟨_, -, rfl⟩ := here
    obtain ⟨_, -, same⟩ := there
    exact ne (Prod.mk.inj same).1.symm

/-! ## What is found in a row -/

lemma mem_actions {p : Position} {action : Action} :
    action ∈ s.actions p ↔ Possible s p action := by
  simp only [PlanSettings.actions, Position.available, List.mem_append]
  constructor
  · rintro (mem | mem)
    · obtain ⟨⟨on, fees⟩, rfl⟩ := by simpa using mem
      exact .claim on fees
    · obtain ⟨⟨on, liquidity⟩, rfl⟩ := by simpa using mem
      exact .withdraw on liquidity
  · rintro (⟨on, fees⟩ | ⟨on, liquidity⟩)
    · exact .inl (by simp [on, fees])
    · exact .inr (by simp [on, liquidity])

lemma nodup_actions (s : PlanSettings) (p : Position) : (s.actions p).Nodup := by
  unfold PlanSettings.actions
  split <;> split <;> simp

/-- A row is refused, or it shows a position that is not empty and the wanted actions on it are
found. -/
lemma Row.findings_cases (s : PlanSettings) (r : Row) :
    (∃ x, r.Refused x ∧ r.findings s = [.excluded x]) ∨
    ∃ p, r.Shows p ∧ (∀ x, ¬ r.Refused x) ∧
      r.findings s = (s.actions p).map fun action => .candidate ⟨r.index, p, action⟩ := by
  unfold findings siftListing
  by_cases other : r.listing.venue = r.adapter.venue
  · rw [if_neg (not_not_intro other)]
    cases resolved : r.adapter.resolve r.listing.value with
    | error e => exact .inl ⟨_, .unresolved other resolved, rfl⟩
    | ok p =>
        by_cases empty : p.feesOwed = 0 ∧ p.liquidity = 0
        · refine .inl ⟨_, .empty ⟨other, resolved⟩ empty.1 empty.2, ?_⟩
          simp [Position.available, empty.1, empty.2]
        · refine .inr ⟨p, ⟨other, resolved⟩, fun x refused => ?_, ?_⟩
          · cases refused with
            | foreign differs => exact differs other
            | unresolved own failed =>
                rw [resolved] at failed
                cases failed
            | empty shows fees liquidity =>
                obtain rfl := Except.ok.inj (resolved.symm.trans shows.resolved)
                exact empty ⟨fees, liquidity⟩
          · have some : ¬ ((!p.available .claim && !p.available .withdraw) = true) := by
              simpa [Position.available] using empty
            simp only [if_neg some]
  · exact .inl ⟨_, .foreign other, by rw [if_pos other]⟩

lemma Row.refusals (s : PlanSettings) (r : Row) :
    (∃ x, (r.findings s).filterMap Finding.excluded? = [x] ∧ r.Refused x) ∨
      (r.findings s).filterMap Finding.excluded? = [] ∧ ∀ x, ¬ r.Refused x := by
  rcases r.findings_cases s with ⟨x, refused, found⟩ | ⟨p, shows, fine, found⟩
  · exact .inl ⟨x, by rw [found]; rfl, refused⟩
  · refine .inr ⟨?_, fine⟩
    simp [found, List.filterMap_map, Function.comp_def, Finding.excluded?]

lemma filterMap_candidate (index : Nat) (p : Position) (actions : List Action) :
    (actions.map fun action => Finding.candidate ⟨index, p, action⟩).filterMap Finding.candidate? =
      actions.map fun action => ⟨index, p, action⟩ := by
  simp [List.filterMap_map, Function.comp_def, Finding.candidate?]

lemma Row.mem_pairs {q : Pair} : q ∈ r.pairs s ↔ r.index = q.candidate.adapter ∧
    r.place = q.place ∧ r.Shows q.candidate.position ∧
      Possible s q.candidate.position q.candidate.action := by
  obtain ⟨⟨index, p', action⟩, place⟩ := q
  unfold pairs
  rcases r.findings_cases s with ⟨x, refused, found⟩ | ⟨p, shows, fine, found⟩
  · rw [found]
    refine ⟨fun mem => (nomatch mem), fun ⟨_, _, shows, possible⟩ => ?_⟩
    cases refused with
    | foreign other => exact absurd shows.own other
    | unresolved own failed =>
        have both := failed.symm.trans shows.resolved
        cases both
    | empty shows' fees liquidity =>
        obtain rfl := Except.ok.inj (shows'.resolved.symm.trans shows.resolved)
        cases possible with
        | claim on owed => exact absurd fees (Nat.ne_of_gt owed)
        | withdraw on left => exact absurd liquidity (Nat.ne_of_gt left)
  · rw [found, filterMap_candidate, List.map_map, List.mem_map]
    constructor
    · rintro ⟨action, mem, same⟩
      cases same
      exact ⟨rfl, rfl, shows, mem_actions.1 mem⟩
    · rintro ⟨rfl, rfl, shows', possible⟩
      obtain rfl := Except.ok.inj (shows.resolved.symm.trans shows'.resolved)
      exact ⟨action, mem_actions.2 possible, rfl⟩

lemma Row.nodup_pairs (s : PlanSettings) (r : Row) : (r.pairs s).Nodup := by
  unfold pairs
  rcases r.findings_cases s with ⟨x, refused, found⟩ | ⟨p, shows, fine, found⟩
  · rw [found]
    exact List.nodup_nil
  · rw [found, filterMap_candidate]
    refine List.Nodup.map (fun _ _ same => (Pair.mk.inj same).1) ?_
    exact (nodup_actions s p).map fun _ _ same => (Candidate.mk.inj same).2.2

/-- Whatever is found besides failures, is found row by row. -/
lemma filterMap_findings {β : Type} (f : Finding → Option β)
    (overlooks : ∀ venue e, f (.failed venue e) = none) (as : List (Adapter × Nat)) :
    (as.flatMap fun a => sift s a.2 a.1 (lists a.2)).filterMap f =
      (rows lists as).flatMap fun r => (r.findings s).filterMap f := by
  rw [List.filterMap_flatMap, rows, List.flatMap_assoc]
  congr 1
  funext a
  rw [List.flatMap_map]
  cases lists a.2 with
  | error e => simp [sift, overlooks, heard, Except.toOption]
  | ok listings =>
      have rowwise : listings.zipIdx.flatMap (fun l => (siftListing s a.2 a.1 l.1).filterMap f) =
          (listings.zipIdx.map Prod.fst).flatMap fun l => (siftListing s a.2 a.1 l).filterMap f := by
        rw [List.flatMap_map]
      rw [List.zipIdx_map_fst] at rowwise
      rw [sift, List.filterMap_flatMap]
      exact rowwise.symm

lemma failed?_findings (r : Row) : (r.findings s).filterMap Finding.failed? = [] := by
  rcases r.findings_cases s with ⟨x, -, found⟩ | ⟨p, -, -, found⟩ <;> rw [found]
  · rfl
  · simp [List.filterMap_map, Function.comp_def, Finding.failed?]

/-- The venues of the adapters whose answer was a failure. -/
lemma failed?_sift (as : List (Adapter × Nat)) :
    (as.flatMap fun a => sift s a.2 a.1 (lists a.2)).filterMap Finding.failed? =
      (as.filter fun a => (lists a.2).toOption.isNone).map fun a => a.1.venue := by
  induction as with
  | nil => rfl
  | cons a as ih =>
      rw [List.flatMap_cons, List.filterMap_append, ih, List.filter_cons]
      cases lists a.2 with
      | error e => rfl
      | ok listings =>
          have none : (sift s a.2 a.1 (.ok listings)).filterMap Finding.failed? = [] := by
            rw [sift, List.filterMap_flatMap, List.flatMap_eq_nil_iff]
            exact fun l _ => failed?_findings ⟨a.2, a.1, 0, l⟩
          rw [none]
          rfl

/-! ## All actions -/

/-- All actions that are wanted and possible. -/
def pairs (s : PlanSettings) (rows : List Row) : List Pair := rows.flatMap (Row.pairs s)

lemma candidates_eq (rows : List Row) :
    (rows.flatMap fun r => (r.findings s).filterMap Finding.candidate?) =
      (pairs s rows).map Pair.candidate := by
  rw [pairs, List.map_flatMap]
  congr 1
  funext r
  simp [Row.pairs, Function.comp_def]

lemma mem_pairs {q : Pair} : q ∈ pairs s (rows lists (enabled adapters s)) ↔
    q.Sought adapters s lists := by
  simp only [pairs, List.mem_flatMap, mem_rows, Row.mem_pairs, Pair.Sought]

/-- No action is wanted twice, since the places of the rows are different. -/
lemma nodup_pairs (as : List (Adapter × Nat)) (distinct : (as.map Prod.snd).Nodup) :
    (pairs s (rows lists as)).Nodup := by
  refine List.nodup_flatMap.2 ⟨fun r _ => r.nodup_pairs s, ?_⟩
  refine (List.pairwise_map.1 (nodup_places as distinct)).imp fun {r r'} ne => ?_
  intro q here there
  obtain ⟨index, place, -⟩ := Row.mem_pairs.1 here
  obtain ⟨index', place', -⟩ := Row.mem_pairs.1 there
  exact ne (by rw [index, place, index', place'])

/-! ## Both rounds -/

/-- What the adapters list is a function of their places. -/
lemma lists_of_goes_discover {as : List (Adapter × Nat)} {ts : List Turn}
    {findings : List Finding} (distinct : (as.map Prod.snd).Nodup)
    (go : Goes (discover s as) ts findings) :
    ∃ lists : Nat → Except VenueError (List Listing),
      conversation ts = as.map (fun a => ⟨.discover a.2 s.owner, lists a.2⟩) ∧
      findings = as.flatMap fun a => sift s a.2 a.1 (lists a.2) := by
  obtain ⟨told, rfl, talked, rfl⟩ := findings_of_goes_discover go
  have : Inhabited (Except VenueError (List Listing)) := ⟨.ok []⟩
  obtain ⟨lists, same⟩ := exists_eq_map Prod.snd distinct
  refine ⟨lists, ?_, ?_⟩
  · rw [talked, same]
    simp [Function.comp_def]
  · rw [same]
    simp [List.flatMap_map]

/-- What is answered about the actions is a function of them. -/
lemma buildings_of_goes {qs : List Pair} {ts : List Turn}
    {results : List (Candidate × Except VenueError Task)} (distinct : qs.Nodup)
    (go : Goes (buildTasks s (qs.map Pair.candidate)) ts results) :
    ∃ building : Pair → Building,
      results = qs.map (fun q => (q.candidate, (building q).result)) ∧
      conversation ts = qs.flatMap (fun q =>
        ⟨q.order s, (building q).first⟩ :: (building q).higher) ∧
      ∀ q ∈ qs, Comes s q.candidate (building q).first (building q).result ∧
        ∀ e ∈ (building q).higher, OrderedFor s q.candidate s.feeLevels e.call := by
  obtain ⟨made, along, rfl, talked, laws⟩ := buildings_of_goes_buildTasks go
  have lengths : qs.length = made.length := by
    simpa using congrArg List.length along.symm
  have : Inhabited Building := ⟨⟨.error (.missingField ""), [], .error (.missingField "")⟩⟩
  have keys : (((qs.zip (made.map Prod.snd)).map Prod.fst).map id).Nodup := by
    simpa [List.map_fst_zip, lengths] using distinct
  obtain ⟨building, same⟩ := exists_eq_map id keys
  rw [List.map_fst_zip (by simp [lengths])] at same
  have eq : made = qs.map fun q => (q.candidate, building q) := by
    calc made = (made.map Prod.fst).zip (made.map Prod.snd) := by
          rw [← List.unzip_fst, ← List.unzip_snd, List.zip_unzip]
      _ = (qs.zip (made.map Prod.snd)).map (Prod.map Pair.candidate id) := by
        rw [along, List.zip_map_left]
      _ = _ := by rw [same]; simp
  subst eq
  refine ⟨building, by simp, ?_, fun q mem => laws (q.candidate, building q) ?_⟩
  · rw [talked, List.flatMap_map]
    rfl
  · exact List.mem_map_of_mem mem

/-! ## The plan -/

/-- A plan has one task or one exclusion for each action that was wanted. -/
lemma oneEach_buildings {qs : List Pair} {building : Pair → Building} (distinct : qs.Nodup)
    (comes : ∀ q ∈ qs, Comes s q.candidate (building q).first (building q).result) :
    let results := qs.map fun q => (q.candidate, (building q).result)
    OneEach (fun q => q ∈ qs ∧ ∃ d, (building q).first = .ok d)
        (Pair.Built s fun q => (building q).first) (results.filterMap built) ∧
      OneEach (fun q => q ∈ qs ∧ ∃ e, (building q).first = .error e)
        (Pair.Unbuilt fun q => (building q).first) (results.filterMap unbuilt) := by
  intro results
  have each : ∀ {β : Type} (f : Candidate × Except VenueError Task → Option β),
      results.filterMap f = qs.flatMap fun q => (f (q.candidate, (building q).result)).toList := by
    intro β f
    rw [List.filterMap_map, List.filterMap_eq_flatMap_toList]
    rfl
  constructor
  · rw [each]
    refine (oneEach_flatMap distinct fun q mem => ?_).congr fun q => and_congr_right fun mem => ?_
    · rcases comes q mem with ⟨e, failed, none⟩ | ⟨d, t, got, some, made⟩
      · refine .inr ⟨by rw [none]; rfl, fun t ⟨d, got, _⟩ => ?_⟩
        cases failed.symm.trans got
      · exact .inl ⟨t, by rw [some]; rfl, d, got, made⟩
    · constructor
      · rintro ⟨t, d, got, -⟩
        exact ⟨d, got⟩
      · rintro ⟨d, got⟩
        rcases comes q mem with ⟨e, failed, -⟩ | ⟨d', t, got', -, made⟩
        · cases failed.symm.trans got
        · exact ⟨t, d', got', made⟩
  · rw [each]
    refine (oneEach_flatMap distinct fun q mem => ?_).congr fun q => and_congr_right fun mem => ?_
    · rcases comes q mem with ⟨e, failed, none⟩ | ⟨d, t, got, some, made⟩
      · exact .inl ⟨_, by rw [none]; rfl, e, failed, rfl⟩
      · refine .inr ⟨by rw [some]; rfl, fun x ⟨e, failed, _⟩ => ?_⟩
        cases failed.symm.trans got
    · exact ⟨fun ⟨x, e, failed, _⟩ => ⟨e, failed⟩, fun ⟨e, failed⟩ => ⟨_, e, failed, rfl⟩⟩

/-- A plan that is made accounts for every position. -/
lemma accounts_of_goes_plan {stoppable : Bool} {ts : List Turn} {plan : Plan}
    (go : Goes (Planning.plan adapters s stoppable) ts (some plan)) :
    ∃ R : Replies, R.Given adapters s (conversation ts) ∧ Accounts adapters s R plan := by
  obtain ⟨findings, results, us, vs, found, laid, talked, rfl⟩ := rounds_of_goes_plan go
  obtain ⟨lists, asked, rfl⟩ := lists_of_goes_discover nodup_enabled found
  have distinct : ((rows lists (enabled adapters s)).map fun r => (r.index, r.place)).Nodup :=
    nodup_places _ nodup_enabled
  have wanted : (pairs s (rows lists (enabled adapters s))).Nodup := nodup_pairs _ nodup_enabled
  rw [filterMap_findings _ fun _ _ => rfl, candidates_eq] at laid
  obtain ⟨building, rfl, ordered, laws⟩ := buildings_of_goes wanted laid
  obtain ⟨tasks, unbuilt⟩ := oneEach_buildings wanted fun q mem => (laws q mem).1
  refine ⟨⟨lists, fun q => (building q).first, fun q => (building q).higher⟩,
    ⟨_, wanted, fun q => mem_pairs, fun q mem => (laws q mem).2, ?_⟩, failed?_sift _, ?_, ?_⟩
  · rw [talked, asked, ordered]
  · refine (tasks.congr fun q => ?_).perm (perm_claimsFirst _)
    rw [mem_pairs]
  · refine ⟨_, _, by rw [filterMap_findings _ fun _ _ => rfl], ?_, unbuilt.congr fun q => ?_⟩
    · refine (oneEach_flatMap distinct.of_map fun r _ => r.refusals s).congr fun r => ?_
      rw [mem_rows]
    · rw [mem_pairs]

/-- An exchange in which a failure to list positions counts as an empty list. -/
def emptied : Exchange → Exchange
  | ⟨.discover adapter owner, answer⟩ => ⟨.discover adapter owner, .ok (heard answer)⟩
  | exchange => exchange

lemma emptied_of_goes_buildTasks {cs : List Candidate} {ts : List Turn}
    {results : List (Candidate × Except VenueError Task)} (go : Goes (buildTasks s cs) ts results) :
    (conversation ts).map emptied = conversation ts := by
  refine (List.map_congr_left fun e mem => ?_).trans (List.map_id _)
  obtain ⟨_, _, ordered, -⟩ :=
    quiet_of_mem_conversation ((only_buildTasks s cs).quiet_of_goes go) mem
  obtain ⟨call, answer⟩ := e
  subst ordered
  rfl

/-- Planning hears nothing of an adapter that fails, just as of one that lists nothing. -/
lemma eq_of_emptied {stoppable stoppable' : Bool} {ts ts' : List Turn} {plan plan' : Plan}
    (go : Goes (Planning.plan adapters s stoppable) ts (some plan))
    (go' : Goes (Planning.plan adapters s stoppable') ts' (some plan'))
    (same : (conversation ts).map emptied = (conversation ts').map emptied) :
    plan.tasks = plan'.tasks ∧ plan.excluded = plan'.excluded := by
  obtain ⟨findings, results, us, vs, found, laid, talked, rfl⟩ := rounds_of_goes_plan go
  obtain ⟨findings', results', us', vs', found', laid', talked', rfl⟩ := rounds_of_goes_plan go'
  obtain ⟨lists, asked, rfl⟩ := lists_of_goes_discover nodup_enabled found
  obtain ⟨lists', asked', rfl⟩ := lists_of_goes_discover nodup_enabled found'
  -- Both ask the same adapters, so the conversations part at the same place.
  rw [talked, talked', List.map_append, List.map_append, asked, asked', List.map_map,
    List.map_map] at same
  obtain ⟨discovered, ordered⟩ := List.append_inj same (by simp)
  have alike : rows lists (enabled adapters s) = rows lists' (enabled adapters s) := by
    refine List.flatMap_congr fun a mem => ?_
    have heard := List.map_inj_left.1 discovered a mem
    rw [Except.ok.inj (eq_of_heq (Exchange.mk.inj heard).2)]
  rw [filterMap_findings _ fun _ _ => rfl] at laid
  rw [filterMap_findings _ fun _ _ => rfl, ← alike] at laid'
  rw [emptied_of_goes_buildTasks laid, emptied_of_goes_buildTasks laid'] at ordered
  obtain rfl := (heedless_buildTasks s _).determined laid laid' ordered
  refine ⟨rfl, ?_⟩
  rw [filterMap_findings Finding.excluded? fun _ _ => rfl,
    filterMap_findings Finding.excluded? fun _ _ => rfl, alike]

end

/-- **Every position counts.**  Planning comes to an end in every world, and where it is not told of
a cancellation it makes a plan.  Whatever the adapters list, understand and build, the plan accounts
for all of it: the failed venues are those whose adapter listed nothing but a failure, there is
exactly one task for each action that is wanted, possible and has a draft for the lowest fee, and
exactly one exclusion for each row that is refused and each such action without a draft.  An adapter
that fails to list its positions changes neither the tasks nor the exclusions, compared with one that
lists none. -/
theorem every_position_counts (adapters : List Adapter) (s : PlanSettings) (stoppable : Bool) :
    (∀ (w : World) d past, ∃ ts made,
      w.play d past (Planning.plan adapters s stoppable) = (ts, made) ∧
      Goes (Planning.plan adapters s stoppable) ts made) ∧
    (∀ ts made, Goes (Planning.plan adapters s stoppable) ts made →
      (∀ t ∈ ts, t.tellsStop = false) →
      ∃ plan R, made = some plan ∧ Replies.Given adapters s R (conversation ts) ∧
        Accounts adapters s R plan) ∧
    ∀ stoppable' ts ts' plan plan',
      Goes (Planning.plan adapters s stoppable) ts (some plan) →
      Goes (Planning.plan adapters s stoppable') ts' (some plan') →
      (conversation ts).map emptied = (conversation ts').map emptied →
      plan.tasks = plan'.tasks ∧ plan.excluded = plan'.excluded := by
  refine ⟨fun w d past => ⟨_, _, rfl, World.goes_play _ d past⟩, fun ts made go unstopped => ?_,
    fun _ _ _ _ _ => eq_of_emptied⟩
  obtain ⟨plan, rfl⟩ : ∃ plan, made = some plan := by
    cases made with
    | some plan => exact ⟨plan, rfl⟩
    | none =>
        obtain ⟨us, t, rfl, tells⟩ := tellsStop_of_goes_plan go
        exact absurd (unstopped t (by simp)) (by simp [tells])
  obtain ⟨R, given, accounts⟩ := accounts_of_goes_plan go
  exact ⟨plan, R, rfl, given, accounts⟩

/-- One venue lists a position, a row of the other venue and a row that is not understood; the other
venue fails.  The plan has one task, two exclusions and one failed venue. -/
theorem every_position_counts_mixed :
    let adapters : List Adapter :=
      [⟨.feeVault, fun value => match value with
        | .null => .ok Sample.position
        | _ => .error (.missingField "pool")⟩,
      ⟨.clmm, fun _ => .ok Sample.position⟩]
    let s := (Sample.setup false).planSettings
      { Sample.options with venues := [.feeVault, .clmm] }
    let smooth := Sample.world (fun _ => ⟨Sample.transaction [Sample.owner] 0, 100⟩) id
    let w : World := { smooth with
      answer := fun past c => match c with
        | .discover 0 _ => .ok [⟨.feeVault, .null⟩, ⟨.clmm, .null⟩, ⟨.feeVault, .bool true⟩]
        | .discover _ _ => .error (.missingField "pool")
        | c => smooth.answer past c }
    ∃ ts plan R, w.play {} [] (Planning.plan adapters s true) = (ts, some plan) ∧
      (∀ t ∈ ts, t.tellsStop = false) ∧ Replies.Given adapters s R (conversation ts) ∧
      Accounts adapters s R plan ∧ plan.failedVenues = [.clmm] ∧ plan.tasks.length = 1 ∧
      plan.excluded.length = 2 := by
  intro adapters s smooth w
  obtain ⟨plays, counts, -⟩ := every_position_counts adapters s true
  obtain ⟨ts, made, played, go⟩ := plays w {} []
  have calm : (w.play {} [] (Planning.plan adapters s true)).1.all fun t => !t.tellsStop := by
    decide +kernel
  have sizes : (w.play {} [] (Planning.plan adapters s true)).2.map (fun plan =>
      (plan.failedVenues, plan.tasks.length, plan.excluded.length)) = some ([.clmm], 1, 2) := by
    decide +kernel
  rw [played] at calm sizes
  have unstopped : ∀ t ∈ ts, t.tellsStop = false := by simpa using calm
  obtain ⟨plan, R, rfl, given, accounts⟩ := counts ts made go unstopped
  obtain ⟨failed, tasks, excluded⟩ : plan.failedVenues = [.clmm] ∧ plan.tasks.length = 1 ∧
      plan.excluded.length = 2 := by simpa using sizes
  exact ⟨ts, plan, R, played, unstopped, given, accounts, failed, tasks, excluded⟩

end Planning

end PoolExit
