import Mathlib.Data.List.Nodup
import Mathlib.Data.List.Pairwise
import PoolExit.Endpoint.Answer
import PoolExit.Proofs.Base64
import PoolExit.Venue.Resolve

/-!
# Names that say nothing

Endpoints may name a field and give it `null` or blank text.  A listing with `null` under a name is
read as if this name were left out.  Blank text is passed over only where an earlier name says
something: else it is taken for the value of the field, which then counts as not given, whatever
stands under the later names.  A granted transaction is looked up under the first of its names that
is there at all, so `null` or blank text under this one hides the other name too.
`void_names` has these laws for all objects and all names.
-/

namespace PoolExit

/-! ## Members -/

namespace Json

/-- The members without those of the given names. -/
def without (names : List String) (members : List (String × Json)) : List (String × Json) :=
  members.filter fun m => m.1 ∉ names

variable {members : List (String × Json)} {name : String} {value : Json}

lemma lookup_cons (k n : String) (v : Json) (rest : List (String × Json)) :
    ((n, v) :: rest).lookup k = if k = n then some v else rest.lookup k := by
  rw [List.lookup_cons]
  by_cases same : k = n
  · simp [same]
  · have aside : (k == n) = false := by simpa using same
    simp [aside, same]

@[simp] lemma lookup_insert (k : String) :
    (insert name value members).lookup k = if k = name then some value else members.lookup k := by
  induction members with
  | nil => rw [insert, lookup_cons]
  | cons m rest ih =>
      obtain ⟨n, v⟩ := m
      rw [insert]
      split
      next same =>
        subst same
        rw [lookup_cons, lookup_cons]
        split <;> rfl
      next other =>
        split
        · rw [lookup_cons]
        · rw [lookup_cons, lookup_cons, ih]
          by_cases here : k = n
          · rw [if_pos here, if_pos here, if_neg (here ▸ Ne.symm other)]
          · rw [if_neg here, if_neg here]

@[simp] lemma lookup_without (names : List String) (k : String) :
    (without names members).lookup k = if k ∈ names then none else members.lookup k := by
  induction members with
  | nil => simp [without]
  | cons m rest ih =>
      obtain ⟨n, v⟩ := m
      rw [without] at ih ⊢
      rw [List.filter_cons, lookup_cons]
      by_cases here : k = n
      · subst here
        by_cases out : k ∈ names
        · rw [if_neg (by simpa using out), ih, if_pos out, if_pos out]
        · rw [if_pos (by simpa using out), lookup_cons, if_pos rfl, if_neg out, if_pos rfl]
      · rw [if_neg here, ← ih]
        split
        · rw [lookup_cons, if_neg here]
        · rfl

/-- A value that says nothing: `null`, or text of blanks only. -/
def Void (value : Json) : Prop :=
  value = .null ∨ ∃ s, value = .string s ∧ Text.blank s = true

end Json

/-! ## Fields -/

namespace Field

variable {f : Field} {members members' : List (String × Json)} {name : String}

/-- What stands under the names, without `null`. -/
def said (names : List String) (members : List (String × Json)) : List Json :=
  names.filterMap fun n => (members.lookup n).filter (!·.isNull)

lemma value?_eq (f : Field) (members : List (String × Json)) :
    f.value? members = (said f.names members).head? := by
  rw [value?, ← List.head?_filter, List.filter_filterMap, said]

/-- The field is read alike out of both lists of members. -/
structure Alike (f : Field) (members members' : List (String × Json)) : Prop where
  address? : f.address? members = f.address? members'
  amount : f.amount members = f.amount members'

lemma Alike.address (alike : f.Alike members members') :
    f.address members = f.address members' := by
  rw [Field.address, alike.address?, Field.address]

lemma alike_of_value? (same : f.value? members = f.value? members') :
    f.Alike members members' := by
  constructor
  · rw [address?, same, address?]
  · rw [Field.amount, same, Field.amount]

/-- The field counts as not given: it has no value, or one that is blank. -/
def Unread (f : Field) (members : List (String × Json)) : Prop :=
  ∀ v, f.value? members = some v → ∃ s, v = .string s ∧ Text.blank s = true

lemma unread_of_none (none : f.value? members = none) : f.Unread members := by
  intro v value
  rw [none] at value
  cases value

lemma Unread.address? (unread : f.Unread members) : f.address? members = .ok none := by
  rw [Field.address?]
  cases value : f.value? members with
  | none => rfl
  | some v =>
      obtain ⟨s, rfl, blank⟩ := unread v value
      simp [blank]

lemma Unread.amount (unread : f.Unread members) : f.amount members = .ok 0 := by
  rw [Field.amount]
  cases value : f.value? members with
  | none => rfl
  | some v =>
      obtain ⟨s, rfl, blank⟩ := unread v value
      simp [blank]

lemma Unread.alike (unread : f.Unread members) (unread' : f.Unread members') :
    f.Alike members members' where
  address? := by rw [unread.address?, unread'.address?]
  amount := by rw [unread.amount, unread'.amount]

/-- Other members do not matter to a field. -/
lemma alike_of_aside (same : ∀ n ∈ f.names, members.lookup n = members'.lookup n) :
    f.Alike members members' := by
  have said_eq : said f.names members = said f.names members' :=
    List.filterMap_congr fun n mem => by rw [same n mem]
  exact alike_of_value? (by rw [value?_eq, said_eq, value?_eq])

/-- A name with `null` is read as if it were left out. -/
lemma alike_insert_null (f : Field) (n : String) (members : List (String × Json)) :
    f.Alike (Json.insert n .null members) (Json.without [n] members) := by
  have said_eq : said f.names (Json.insert n .null members) =
      said f.names (Json.without [n] members) := by
    refine List.filterMap_congr fun k _ => ?_
    rw [Json.lookup_insert, Json.lookup_without]
    by_cases here : k = n
    · simp [here, Json.isNull]
    · simp [here]
  exact alike_of_value? (by rw [value?_eq, said_eq, value?_eq])

section

variable {before after : List String} {n s : String}

/-- Behind a name that says something, blank text is read as if its name were left out. -/
lemma alike_insert_behind (split : f.names = before ++ n :: after) (once : n ∉ before)
    (given : said before members ≠ []) (value : Json) :
    f.Alike (Json.insert n value members) (Json.without [n] members) := by
  have untouched : ∀ {ms : List (String × Json)},
      (∀ k ∈ before, ms.lookup k = members.lookup k) →
      f.value? ms = (said before members).head? := by
    intro ms same
    have said_eq : said before ms = said before members :=
      List.filterMap_congr fun k mem => by rw [same k mem]
    rw [value?_eq, split, said, List.filterMap_append, ← said, said_eq, List.head?_append]
    cases earlier : said before members with
    | nil => exact absurd earlier given
    | cons v rest => rfl
  refine alike_of_value? ((untouched fun k mem => ?_).trans (untouched fun k mem => ?_).symm)
  · have other : k ≠ n := fun same => once (same ▸ mem)
    simp [other]
  · have other : k ≠ n := fun same => once (same ▸ mem)
    simp [other]

/-- Blank text under the first name that says something makes the field count as not given. -/
lemma unread_insert_blank (split : f.names = before ++ n :: after) (once : n ∉ before)
    (none : said before members = []) (blank : Text.blank s = true) :
    f.Unread (Json.insert n (.string s) members) := by
  have said_eq : said before (Json.insert n (.string s) members) = [] := by
    rw [← none]
    refine List.filterMap_congr fun k mem => ?_
    have other : k ≠ n := fun same => once (same ▸ mem)
    simp [other]
  intro v value
  rw [value?_eq, split, said, List.filterMap_append, ← said, said_eq, List.nil_append,
    List.filterMap_cons, Json.lookup_insert, if_pos rfl] at value
  exact ⟨s, (Option.some.inj value).symm, blank⟩

/-- Without its names a field is not given. -/
lemma unread_without (f : Field) (members : List (String × Json)) :
    f.Unread (Json.without f.names members) := by
  have said_eq : said f.names (Json.without f.names members) = [] :=
    List.filterMap_eq_nil_iff.2 fun k mem => by simp [mem]
  exact unread_of_none (by rw [value?_eq, said_eq, List.head?_nil])

end

end Field

/-! ## Listings -/

/-- The fields of a layout. -/
def Venue.Layout.fields (l : Venue.Layout) : List Field :=
  [l.pool, l.companion, l.mint, l.feeA, l.feeB, l.balance]

namespace Venue

variable {members members' : List (String × Json)}

/-- No name stands for two fields of a venue, or for one field twice. -/
lemma nodup_names (venue : Venue) : (venue.layout.fields.flatMap Field.names).Nodup := by
  cases venue <;> decide

/-- A listing is understood by its fields alone. -/
lemma resolve_congr {venue : Venue}
    (alike : ∀ f ∈ venue.layout.fields, f.Alike members members') :
    venue.resolve (.object members) = venue.resolve (.object members') := by
  simp only [Layout.fields, List.forall_mem_cons] at alike
  obtain ⟨pool, companion, mint, feeA, feeB, balance, -⟩ := alike
  simp only [resolve, pure_bind, pool.address, companion.address, mint.address?, feeA.amount,
    feeB.amount, balance.amount]

/-- A change under names of one field matters to this field only. -/
lemma resolve_congr_of_field {venue : Venue} {f : Field} (mem : f ∈ venue.layout.fields)
    (alike : f.Alike members members')
    (aside : ∀ n, n ∉ f.names → members.lookup n = members'.lookup n) :
    venue.resolve (.object members) = venue.resolve (.object members') := by
  refine resolve_congr fun g listed => ?_
  by_cases same : g = f
  · exact same ▸ alike
  · refine Field.alike_of_aside fun n named => aside n fun named' => ?_
    have apart := (List.nodup_flatMap.1 venue.nodup_names).2
    have : Std.Symm (Function.onFun List.Disjoint Field.names) :=
      ⟨fun _ _ disjoint _ left right => disjoint right left⟩
    exact apart.forall listed mem same named named'

end Venue

namespace Grant

variable {members : List (String × Json)} {v : Json}

/-- The two names of each part of a granted transaction. -/
def names : List (String × String) :=
  [("serializedTransaction", "transaction"), ("expiryHeight", "lastValidBlockHeight")]

lemma ofMembers_congr {members' : List (String × Json)}
    (error : members.lookup "error" = members'.lookup "error")
    (transaction : transaction? members = transaction? members')
    (expiryHeight : expiryHeight? members = expiryHeight? members') :
    ofMembers members = ofMembers members' := by
  rw [ofMembers, error, transaction, expiryHeight, ofMembers]

lemma looseUInt64?_void (void : v.Void) : v.looseUInt64? = none := by
  rcases void with rfl | ⟨s, rfl, blank⟩
  · rfl
  · rw [Json.looseUInt64?, Text.trim_blank blank]
    rfl

lemma string?_void (void : v.Void) : (v.string?.bind fun text =>
    let text := Text.trim text
    if text.isEmpty then none else some text) = none := by
  rcases void with rfl | ⟨s, rfl, blank⟩
  · rfl
  · simp [Json.string?, Text.trim_blank blank]

section

variable {α : Type} {first second : String} {read : Json → Option α}

/-- Where the second name says nothing, it is read as if it were left out. -/
lemma either_second (apart : first ≠ second) (nothing : read v = none) :
    (either first second (Json.insert second v members)).bind read =
      (either first second (Json.without [second] members)).bind read := by
  simp only [either, Json.lookup_insert, Json.lookup_without, List.mem_singleton, apart, if_false,
    if_true]
  cases members.lookup first with
  | none => exact nothing
  | some w => rfl

/-- Where the first name says nothing, the second one is not looked at. -/
lemma either_first (nothing : read v = none) :
    (either first second (Json.insert first v members)).bind read =
      (either first second (Json.without [first, second] members)).bind read := by
  simp [either, nothing]

end

/-- A part of a granted transaction that says nothing under its second name is read as if this name
were left out, and one that says nothing under its first name as if both were. -/
lemma ofMembers_void (void : v.Void) {first second : String} (named : (first, second) ∈ names) :
    ofMembers (Json.insert second v members) = ofMembers (Json.without [second] members) ∧
      ofMembers (Json.insert first v members) =
        ofMembers (Json.without [first, second] members) := by
  have texts := string?_void void
  have heights := looseUInt64?_void void
  simp only [names, List.mem_cons, Prod.mk.injEq, List.not_mem_nil, or_false] at named
  rcases named with ⟨rfl, rfl⟩ | ⟨rfl, rfl⟩
  · constructor
    · refine ofMembers_congr (by simp) (either_second (by decide) texts) ?_
      simp [expiryHeight?, either]
    · refine ofMembers_congr (by simp) (either_first texts) ?_
      simp [expiryHeight?, either]
  · constructor
    · refine ofMembers_congr (by simp) ?_ (either_second (by decide) heights)
      simp [transaction?, either]
    · refine ofMembers_congr (by simp) ?_ (either_first heights)
      simp [transaction?, either]

end Grant

/-! ## The law -/

/-- **Names that say nothing.**  In a listing a name with `null` is read as if it were left out.  A
name of a field with blank text is so only if an earlier name of this field says something; else it
is read as if all names of the field were left out, whatever the later ones say.  In what a builder
grants, the second name of a part that says nothing is read as if it were left out, but a first name
that says nothing is read as if both were. -/
theorem void_names (members : List (String × Json)) :
    (∀ (venue : Venue) (n : String),
      venue.resolve (.object (Json.insert n .null members)) =
        venue.resolve (.object (Json.without [n] members))) ∧
    (∀ (venue : Venue), ∀ f ∈ venue.layout.fields, ∀ before n after,
      f.names = before ++ n :: after → ∀ s, Text.blank s = true →
        (Field.said before members ≠ [] →
          venue.resolve (.object (Json.insert n (.string s) members)) =
            venue.resolve (.object (Json.without [n] members))) ∧
        (Field.said before members = [] →
          venue.resolve (.object (Json.insert n (.string s) members)) =
            venue.resolve (.object (Json.without f.names members)))) ∧
    ∀ first second, (first, second) ∈ Grant.names → ∀ v : Json, v.Void →
      Grant.ofMembers (Json.insert second v members) =
        Grant.ofMembers (Json.without [second] members) ∧
      Grant.ofMembers (Json.insert first v members) =
        Grant.ofMembers (Json.without [first, second] members) := by
  refine ⟨?_, ?_, ?_⟩
  · intro venue n
    exact Venue.resolve_congr fun f _ => f.alike_insert_null n members
  · intro venue f listed before n after split s blank
    have once : n ∉ before := by
      have distinct : f.names.Nodup := (List.nodup_flatMap.1 venue.nodup_names).1 f listed
      rw [split] at distinct
      exact fun mem => (List.nodup_append.1 distinct).2.2 n mem n List.mem_cons_self rfl
    have named : n ∈ f.names := by simp [split]
    constructor
    · intro given
      refine Venue.resolve_congr_of_field listed
        (Field.alike_insert_behind split once given (.string s)) fun k other => ?_
      have aside : k ≠ n := fun same => other (same ▸ named)
      simp [aside]
    · intro none
      have unread := Field.unread_insert_blank split once none blank
      refine Venue.resolve_congr_of_field listed
        (unread.alike (f.unread_without members)) fun k other => ?_
      have aside : k ≠ n := fun same => other (same ▸ named)
      simp [aside, other]
  · intro first second named v void
    exact Grant.ofMembers_void void named

/-- Five units of fees under the second name are overlooked where the first name has blank text, but
not where it is left out. -/
theorem void_names_overlooked :
    let key := Json.string "11111111111111111111111111111111"
    let members := [("feeOwedA", .string "5"), ("pool", key), ("position", key)]
    let fees := fun ms => (Venue.clmm.resolve (.object ms)).toOption.map Position.feesOwed
    fees (Json.insert "tokenFeesOwedA" (.string "") members) = some 0 ∧
      fees (Json.without ["tokenFeesOwedA"] members) = some 5 := by
  intro key members fees
  have listed : Venue.clmm.layout.feeA ∈ Venue.clmm.layout.fields := by simp [Venue.Layout.fields]
  have hidden := ((void_names members).2.1 .clmm _ listed [] "tokenFeesOwedA" ["feeOwedA"] rfl ""
    rfl).2 rfl
  constructor
  · change (Venue.clmm.resolve (.object _)).toOption.map Position.feesOwed = some 0
    rw [hidden]
    decide +kernel
  · decide +kernel

end PoolExit
