import Mathlib.Data.List.Induction
import Mathlib.Data.List.Perm.Subperm
import Marquee.Link.RollCall
import Marquee.Proofs.Link.Requests

/-!
# Who answers the roll call

What comes of a candidate is decided by opening it and by its answer to the question for its
identity (`Asked`), and the outcome of a roll call is a matter of how often each identity was told.
A place goes to the first candidate that claims it, and becomes a duplicate at the moment of the
second claim (`Tracks.duplicates_claim`); what was found after some of the candidates is described
by `Tracks`, and the whole roll call by `rollCall_exact`.
-/

namespace Marquee

namespace RollCall

variable {κ ℓ : Type}

/-! ## Claims -/

namespace Found

variable {found : Found ℓ} {id : UInt8} {place : Fin 3}

/-- An identity past the chain claims nothing. -/
theorem claim_of_outside (h : panelCount ≤ id.toNat) (link : ℓ) : found.claim id link = found := by
  rw [claim, dif_neg (Nat.not_lt.mpr h)]

/-- The first claim of a place gets it. -/
theorem claim_of_free (here : id.toNat = place.val) (free : found.slots.get place = .none)
    (link : ℓ) :
    found.claim id link = { found with slots := found.slots.set place (some link) } := by
  have inside : id.toNat < panelCount := here ▸ place.isLt
  obtain rfl : ⟨id.toNat, inside⟩ = place := Fin.ext here
  rw [claim, dif_pos inside]
  dsimp only
  rw [free]

/-- Another claim of a place makes it a duplicate, unless it is one already. -/
theorem claim_of_taken {held : ℓ} (here : id.toNat = place.val)
    (taken : found.slots.get place = some held) (link : ℓ) :
    found.claim id link =
      if id.toNat ∈ found.duplicates then found
      else { found with duplicates := found.duplicates ++ [id.toNat] } := by
  have inside : id.toNat < panelCount := here ▸ place.isLt
  obtain rfl : ⟨id.toNat, inside⟩ = place := Fin.ext here
  rw [claim, dif_pos inside]
  dsimp only
  rw [taken]

/-- A place keeps the link that it has, and otherwise gets the one that claims it. -/
theorem slots_claim (found : Found ℓ) (id : UInt8) (link : ℓ) (place : Fin 3) :
    (found.claim id link).slots.get place =
      (found.slots.get place).or (if id.toNat = place.val then some link else .none) := by
  by_cases inside : id.toNat < panelCount
  · cases hslot : found.slots.get ⟨id.toNat, inside⟩ with
    | none =>
      rw [claim_of_free rfl hslot]
      by_cases here : id.toNat = place.val
      · obtain rfl : ⟨id.toNat, inside⟩ = place := Fin.ext here
        rw [hslot, if_pos here]
        exact Trio.get_set_self ..
      · rw [if_neg here, Option.or_none]
        exact Trio.get_set_of_ne _ _ fun h => here (congrArg Fin.val h)
    | some held =>
      have hsame : (found.claim id link).slots = found.slots := by
        rw [claim_of_taken rfl hslot]
        split <;> rfl
      rw [hsame]
      by_cases here : id.toNat = place.val
      · obtain rfl : ⟨id.toNat, inside⟩ = place := Fin.ext here
        rw [hslot, Option.some_or]
      · rw [if_neg here, Option.or_none]
  · have elsewhere : id.toNat ≠ place.val := fun h => inside (h ▸ place.isLt)
    rw [claim_of_outside (Nat.not_lt.mp inside), if_neg elsewhere, Option.or_none]

/-- The missing places are those without a link, ascending. -/
theorem missing_eq_filter {p : Nat → Bool}
    (h : ∀ place, (found.slots.get place).isNone = p place.val) :
    found.missing = (List.range panelCount).filter p := by
  obtain ⟨⟨zero, one, two⟩, duplicates⟩ := found
  have hzero : p 0 = zero.isNone := (h 0).symm
  have hone : p 1 = one.isNone := (h 1).symm
  have htwo : p 2 = two.isNone := (h 2).symm
  change _ = [0, 1, 2].filter p
  simp only [List.filter_cons, List.filter_nil, hzero, hone, htwo]
  cases zero <;> cases one <;> cases two <;> rfl

/-- There are links exactly if every place has one and there is no second claim. -/
theorem result_eq_ok_iff {links : Trio ℓ} :
    found.result = .ok links ↔
      found.duplicates = [] ∧ ∀ place, found.slots.get place = some (links.get place) := by
  rw [← Trio.sequence_eq_some_iff, result]
  cases found.slots.sequence <;> cases found.duplicates <;> simp

/-- The error says what is known about missing and doubled places. -/
theorem eq_of_result_eq_error {e : RollCallError} (h : found.result = .error e) :
    e = ⟨found.missing, found.duplicates⟩ := by
  rw [result] at h
  split at h
  · cases h
  · exact (Except.error.inj h).symm

end Found

/-! ## What the candidates tell -/

/-- The second claim of `a` came before any second claim of `b`. -/
def SecondClaimBefore (ids : List Nat) (a b : Nat) : Prop :=
  ∃ before after, ids = before ++ after ∧ 2 ≤ before.count a ∧ before.count b < 2

/-- What is told later does not change which second claim came first. -/
theorem SecondClaimBefore.append {ids : List Nat} {a b : Nat} (h : SecondClaimBefore ids a b)
    (more : List Nat) : SecondClaimBefore (ids ++ more) a b := by
  obtain ⟨before, after, rfl, ha, hb⟩ := h
  exact ⟨before, after ++ more, List.append_assoc .., ha, hb⟩

variable [Link ℓ]

/-- What comes of a candidate: it is opened, then asked for its identity, and the first of the two
that fails says why it is passed over. -/
inductive Asked (connect : κ → Except OpeningError ℓ) (candidate : κ) :
    Except OpeningError (UInt8 × ℓ) → Prop
  /-- it cannot be opened -/
  | closed {e : OpeningError} (opening : connect candidate = .error e) :
    Asked connect candidate (.error e)
  /-- it is open, and the question for its identity fails -/
  | silent {opened link : ℓ} {e : ExchangeError} (opening : connect candidate = .ok opened)
    (answer : Link.askIdentity opened = (.error (.exchange e), link)) :
    Asked connect candidate (.error (.noResponse e))
  /-- it is open, and the question is turned away before it is sent -/
  | turnedAway {opened link : ℓ} {e : ArgumentError} (opening : connect candidate = .ok opened)
    (answer : Link.askIdentity opened = (.error (.argument e), link)) :
    Asked connect candidate (.error .unavailable)
  /-- it is open and tells its identity -/
  | answering {opened link : ℓ} {id : UInt8} (opening : connect candidate = .ok opened)
    (answer : Link.askIdentity opened = (.ok id, link)) :
    Asked connect candidate (.ok (id, link))

section

variable (connect : κ → Except OpeningError ℓ)

/-- The identity and the link of a candidate that is opened and tells its identity. -/
def claim? (candidate : κ) : Option (UInt8 × ℓ) :=
  match connect candidate with
  | .error _ => none
  | .ok opened =>
    match Link.askIdentity opened with
    | (.ok id, link) => some (id, link)
    | (.error _, _) => none

/-- The identity that a candidate tells, if it comes to that. -/
def identity? (candidate : κ) : Option Nat :=
  (claim? connect candidate).map fun answer => answer.1.toNat

/-- The link with which a candidate claims a place, if it does. -/
def claimant? (place : Fin 3) (candidate : κ) : Option ℓ :=
  (claim? connect candidate).bind fun answer =>
    if answer.1.toNat = place.val then some answer.2 else none

/-- All identities that the candidates tell, in order. -/
def told (candidates : List κ) : List Nat := candidates.filterMap (identity? connect)

end

variable {connect : κ → Except OpeningError ℓ} {asked : List κ} {candidate : κ} {found : Found ℓ}

/-- The roll call comes to the outcome of the candidate. -/
theorem asked_ask (connect : κ → Except OpeningError ℓ) (candidate : κ) :
    Asked connect candidate (ask connect candidate) := by
  rw [ask]
  rcases opening : connect candidate with e | opened
  · exact .closed opening
  · dsimp only
    rw [identityOf]
    rcases answer : Link.askIdentity opened with ⟨(e | e) | id, link⟩
    · exact .silent opening answer
    · exact .turnedAway opening answer
    · exact .answering opening answer

/-- A candidate that tells its identity was opened and answered. -/
theorem Asked.ok {id : UInt8} {link : ℓ} (h : Asked connect candidate (.ok (id, link))) :
    ∃ opened, connect candidate = .ok opened ∧ Link.askIdentity opened = (.ok id, link) := by
  cases h with
  | answering opening answer => exact ⟨_, opening, answer⟩

/-- A candidate that tells its identity claims with it. -/
theorem claim?_of_ok {id : UInt8} {link : ℓ} (h : Asked connect candidate (.ok (id, link))) :
    claim? connect candidate = some (id, link) := by
  obtain ⟨opened, opening, answer⟩ := h.ok
  simp only [claim?, opening, answer]

/-- A candidate that is passed over claims nothing. -/
theorem claim?_of_error {e : OpeningError} (h : Asked connect candidate (.error e)) :
    claim? connect candidate = none := by
  cases h with
  | closed opening => simp only [claim?, opening]
  | silent opening answer => simp only [claim?, opening, answer]
  | turnedAway opening answer => simp only [claim?, opening, answer]

/-- A candidate claims with the identity that it tells and the link on which it told it. -/
theorem claim?_eq_some_iff {id : UInt8} {link : ℓ} :
    claim? connect candidate = some (id, link) ↔
      ∃ opened, connect candidate = .ok opened ∧ Link.askIdentity opened = (.ok id, link) := by
  constructor
  · intro h
    rcases hask : ask connect candidate with e | ⟨id', link'⟩
    · rw [claim?_of_error (hask ▸ asked_ask connect candidate)] at h
      cases h
    · have hasked : Asked connect candidate (.ok (id', link')) := hask ▸ asked_ask ..
      rw [claim?_of_ok hasked] at h
      cases h
      exact hasked.ok
  · rintro ⟨opened, opening, answer⟩
    exact claim?_of_ok (.answering opening answer)

theorem told_concat_of_error {e : OpeningError} (h : Asked connect candidate (.error e)) :
    told connect (asked ++ [candidate]) = told connect asked := by
  simp [told, identity?, claim?_of_error h]

/-- A candidate that tells its identity adds it to those told before. -/
theorem told_concat_of_ok {id : UInt8} {link : ℓ} (h : Asked connect candidate (.ok (id, link))) :
    told connect (asked ++ [candidate]) = told connect asked ++ [id.toNat] := by
  simp [told, identity?, claim?_of_ok h]

theorem claimant?_eq_none_iff {place : Fin 3} :
    claimant? connect place candidate = none ↔ identity? connect candidate ≠ some place.val := by
  rw [claimant?, identity?]
  rcases claim? connect candidate with _ | ⟨id, link⟩ <;> simp

/-- The claimants of a place are the candidates that tell its number. -/
theorem claimant?_eq_some_iff {place : Fin 3} {link : ℓ} :
    claimant? connect place candidate = some link ↔
      ∃ id : UInt8, id.toNat = place.val ∧ claim? connect candidate = some (id, link) := by
  rw [claimant?]
  rcases claim? connect candidate with _ | ⟨id, link'⟩ <;> simp

/-- Nobody has claimed a place that was never told. -/
theorem findSome?_claimant?_eq_none_iff {place : Fin 3} :
    asked.findSome? (claimant? connect place) = none ↔
      (told connect asked).count place.val = 0 := by
  rw [List.findSome?_eq_none_iff, List.count_eq_zero, told, List.mem_filterMap]
  simp only [claimant?_eq_none_iff]
  constructor
  · rintro h ⟨candidate, hmem, hid⟩
    exact h candidate hmem hid
  · exact fun h candidate hmem hid => h ⟨candidate, hmem, hid⟩

/-- A place that is told once is told by one candidate only. -/
theorem teller_unique {id : Nat} {c d : κ} (once : (told connect asked).count id = 1)
    (hc : c ∈ asked) (hd : d ∈ asked) (hcid : identity? connect c = some id)
    (hdid : identity? connect d = some id) : c = d := by
  rw [told, List.count_filterMap, List.countP_eq_length_filter, List.length_eq_one_iff] at once
  obtain ⟨x, hx⟩ := once
  have only {y : κ} (hy : y ∈ asked) (hyid : identity? connect y = some id) : y = x := by
    have hmem : y ∈ asked.filter fun a => identity? connect a == some id :=
      List.mem_filter.mpr ⟨hy, beq_iff_eq.mpr hyid⟩
    rw [hx] at hmem
    exact List.mem_singleton.mp hmem
  rw [only hc hcid, only hd hdid]

/-! ## What is known after some of the candidates -/

/-- What is known is what the candidates so far have told. -/
structure Tracks (connect : κ → Except OpeningError ℓ) (asked : List κ) (found : Found ℓ) :
    Prop where
  /-- a place has the link of the first candidate that claimed it -/
  slots : ∀ place, found.slots.get place = asked.findSome? (claimant? connect place)
  /-- the duplicates are the places that were told more than once -/
  mem_duplicates : ∀ id, id ∈ found.duplicates ↔
    id < panelCount ∧ 2 ≤ (told connect asked).count id
  /-- no duplicate is listed twice -/
  nodup : found.duplicates.Nodup
  /-- the duplicates are listed in the order of their second claims -/
  ordered : found.duplicates.Pairwise (SecondClaimBefore (told connect asked))

namespace Tracks

/-- Before anybody is asked nothing is known. -/
theorem start : Tracks connect [] .none where
  slots place := by
    match place with
    | 0 => rfl
    | 1 => rfl
    | 2 => rfl
  mem_duplicates id := by simp [Found.none, told]
  nodup := List.nodup_nil
  ordered := .nil

/-- A place is free as long as nobody has told its number. -/
theorem slot_eq_none_iff (h : Tracks connect asked found) (place : Fin 3) :
    found.slots.get place = none ↔ (told connect asked).count place.val = 0 := by
  rw [h.slots, findSome?_claimant?_eq_none_iff]

theorem not_mem_duplicates (h : Tracks connect asked found) {id : Nat}
    (few : (told connect asked).count id < 2) : id ∉ found.duplicates := fun hmem =>
  absurd ((h.mem_duplicates id).mp hmem).2 (Nat.not_le.mpr few)

/-- A place becomes a duplicate when it is told for the second time. -/
theorem duplicates_claim (h : Tracks connect asked found) (id : UInt8) (link : ℓ) :
    (found.claim id link).duplicates =
      if id.toNat < panelCount ∧ (told connect asked).count id.toNat = 1
      then found.duplicates ++ [id.toNat] else found.duplicates := by
  by_cases inside : id.toNat < panelCount
  · have hfree : found.slots.get ⟨id.toNat, inside⟩ = none ↔
        (told connect asked).count id.toNat = 0 := h.slot_eq_none_iff _
    cases hslot : found.slots.get ⟨id.toNat, inside⟩ with
    | none =>
      have never := hfree.mp hslot
      rw [Found.claim_of_free rfl hslot, if_neg (by omega)]
    | some held =>
      have before : (told connect asked).count id.toNat ≠ 0 := fun never =>
        absurd (hfree.mpr never) (hslot ▸ Option.some_ne_none held)
      rw [Found.claim_of_taken rfl hslot]
      by_cases once : (told connect asked).count id.toNat = 1
      · rw [if_neg (h.not_mem_duplicates (by omega)), if_pos ⟨inside, once⟩]
      · have known := (h.mem_duplicates id.toNat).mpr ⟨inside, by omega⟩
        rw [if_pos known, if_neg fun second => once second.2]
  · rw [Found.claim_of_outside (Nat.not_lt.mp inside), if_neg fun second => inside second.1]

/-- After a claim, too, the duplicates are the places that were told more than once. -/
theorem mem_duplicates_claim {id : UInt8} {link : ℓ} (h : Tracks connect asked found)
    (hask : Asked connect candidate (.ok (id, link))) (other : Nat) :
    other ∈ (found.claim id link).duplicates ↔
      other < panelCount ∧ 2 ≤ (told connect (asked ++ [candidate])).count other := by
  have hcount : (told connect (asked ++ [candidate])).count other =
      (told connect asked).count other + if id.toNat = other then 1 else 0 := by
    simp [told_concat_of_ok hask, List.count_append, List.count_singleton]
  rw [h.duplicates_claim, hcount]
  by_cases here : id.toNat = other
  · subst here
    rw [if_pos rfl]
    split
    next second =>
      exact iff_of_true (List.mem_append_right _ (List.mem_singleton_self _)) ⟨second.1, by omega⟩
    next first =>
      -- A count of more than two was a duplicate before, and the first claim does not make one.
      rw [h.mem_duplicates]
      refine and_congr_right fun inside => ?_
      have : (told connect asked).count id.toNat ≠ 1 := fun once => first ⟨inside, once⟩
      omega
  · rw [if_neg here, Nat.add_zero, ← h.mem_duplicates]
    split
    · rw [List.mem_append, List.mem_singleton, or_iff_left (Ne.symm here)]
    · rfl

/-- A candidate that tells no identity is passed over. -/
theorem passed_over {e : OpeningError} (h : Tracks connect asked found)
    (hask : Asked connect candidate (.error e)) : Tracks connect (asked ++ [candidate]) found where
  slots place := by
    have hclaim : claimant? connect place candidate = none := by
      rw [claimant?, claim?_of_error hask, Option.bind_none]
    rw [h.slots, List.findSome?_append, List.findSome?_singleton, hclaim, Option.or_none]
  mem_duplicates := by
    rw [told_concat_of_error hask]
    exact h.mem_duplicates
  nodup := h.nodup
  ordered := by
    rw [told_concat_of_error hask]
    exact h.ordered

/-- A candidate tells an identity. -/
theorem claim {id : UInt8} {link : ℓ} (h : Tracks connect asked found)
    (hask : Asked connect candidate (.ok (id, link))) :
    Tracks connect (asked ++ [candidate]) (found.claim id link) where
  slots place := by
    have hclaim : claimant? connect place candidate =
        if id.toNat = place.val then some link else none := by
      rw [claimant?, claim?_of_ok hask, Option.bind_some]
    rw [Found.slots_claim, h.slots, List.findSome?_append, List.findSome?_singleton, hclaim]
  mem_duplicates := h.mem_duplicates_claim hask
  nodup := by
    rw [h.duplicates_claim]
    split
    next second =>
      have hnew : id.toNat ∉ found.duplicates := h.not_mem_duplicates (by omega)
      refine List.nodup_append.mpr ⟨h.nodup, List.pairwise_singleton _ _, ?_⟩
      rintro other hmem _ hlast rfl
      exact hnew (List.mem_singleton.mp hlast ▸ hmem)
    next => exact h.nodup
  ordered := by
    have hordered : found.duplicates.Pairwise
        (SecondClaimBefore (told connect (asked ++ [candidate]))) := by
      rw [told_concat_of_ok hask]
      exact h.ordered.imp fun before => before.append _
    rw [h.duplicates_claim]
    split
    next second =>
      refine List.pairwise_append.mpr ⟨hordered, List.pairwise_singleton _ _, ?_⟩
      intro earlier hmem last hlast
      obtain rfl := List.mem_singleton.mp hlast
      have twice := ((h.mem_duplicates earlier).mp hmem).2
      exact ⟨told connect asked, [id.toNat], told_concat_of_ok hask, twice, by omega⟩
    next => exact hordered

/-- One more candidate is asked. -/
theorem step (h : Tracks connect asked found) (candidate : κ) :
    Tracks connect (asked ++ [candidate]) (RollCall.step connect found candidate) := by
  have hasked := asked_ask connect candidate
  rw [RollCall.step]
  generalize ask connect candidate = outcome at hasked
  cases outcome with
  | error e => exact h.passed_over hasked
  | ok answer => exact h.claim hasked

/-! ## The outcome -/

/-- The missing places are those that nobody has told. -/
theorem missing (h : Tracks connect asked found) :
    found.missing =
      (List.range panelCount).filter fun id => (told connect asked).count id = 0 := by
  refine Found.missing_eq_filter fun place => ?_
  rw [Bool.eq_iff_iff, Option.isNone_iff_eq_none, h.slot_eq_none_iff, decide_eq_true_iff]

/-- There are never more duplicates than places. -/
theorem length_duplicates_le (h : Tracks connect asked found) :
    found.duplicates.length ≤ panelCount := by
  have hsub : found.duplicates ⊆ List.range panelCount := fun id hmem =>
    List.mem_range.mpr ((h.mem_duplicates id).mp hmem).1
  have hlength := (List.Nodup.subperm h.nodup hsub).length_le
  rwa [List.length_range] at hlength

/-- The roll call succeeds exactly if every place is told once. -/
theorem result_isOk_iff (h : Tracks connect asked found) :
    (∃ links, found.result = .ok links) ↔
      ∀ id < panelCount, (told connect asked).count id = 1 := by
  constructor
  · rintro ⟨links, hok⟩ id inside
    obtain ⟨hnone, hslots⟩ := Found.result_eq_ok_iff.mp hok
    have hsome : (told connect asked).count id ≠ 0 := fun never => by
      have hslot := (h.slot_eq_none_iff ⟨id, inside⟩).mpr never
      rw [hslots] at hslot
      cases hslot
    have hfew : ¬ 2 ≤ (told connect asked).count id := fun twice => by
      have hmem := (h.mem_duplicates id).mpr ⟨inside, twice⟩
      rw [hnone] at hmem
      cases hmem
    omega
  · intro once
    have hslot (place : Fin 3) : ∃ link, found.slots.get place = some link := by
      refine Option.ne_none_iff_exists'.mp fun hnone => ?_
      have never := (h.slot_eq_none_iff place).mp hnone
      have := once place.val place.isLt
      omega
    obtain ⟨zero, hzero⟩ := hslot 0
    obtain ⟨one, hone⟩ := hslot 1
    obtain ⟨two, htwo⟩ := hslot 2
    refine ⟨⟨zero, one, two⟩, Found.result_eq_ok_iff.mpr ⟨?_, fun place => ?_⟩⟩
    · refine List.eq_nil_iff_forall_not_mem.mpr fun id hmem => ?_
      obtain ⟨inside, twice⟩ := (h.mem_duplicates id).mp hmem
      have := once id inside
      omega
    · match place with
      | 0 => exact hzero
      | 1 => exact hone
      | 2 => exact htwo

/-- The link in a place is that of a candidate which claims it. -/
theorem exists_claimant {links : Trio ℓ} (h : Tracks connect asked found)
    (hok : found.result = .ok links) (place : Fin 3) :
    ∃ candidate ∈ asked, ∃ id : UInt8, id.toNat = place.val ∧
      claim? connect candidate = some (id, links.get place) := by
  have hslot := (Found.result_eq_ok_iff.mp hok).2 place
  rw [h.slots] at hslot
  obtain ⟨candidate, hmem, hclaim⟩ := List.exists_of_findSome?_eq_some hslot
  exact ⟨candidate, hmem, claimant?_eq_some_iff.mp hclaim⟩

end Tracks

/-- Whatever candidates are asked, what is known in the end is what they told. -/
theorem tracks (connect : κ → Except OpeningError ℓ) (candidates : List κ) :
    Tracks connect candidates (candidates.foldl (step connect) .none) := by
  induction candidates using List.reverseRecOn with
  | nil => exact .start
  | append_singleton asked candidate ih =>
    rw [List.foldl_append]
    exact ih.step candidate

/-- Each candidate has one report, in its place, with what came of it. -/
theorem reports_of_asked (connect : κ → Except OpeningError ℓ) (candidates : List κ) :
    List.Forall₂ (fun candidate report => report.candidate = candidate ∧
      ∃ outcome, Asked connect candidate outcome ∧ report.outcome = outcome.map Prod.fst)
      candidates (rollCall connect candidates).1 := by
  rw [rollCall, List.forall₂_map_right_iff]
  exact List.forall₂_same.mpr fun candidate _ => ⟨rfl, _, asked_ask connect candidate, rfl⟩

/-- In another order the same candidates get the same places. -/
theorem links_perm {candidates others : List κ} {links : Trio ℓ}
    (hperm : candidates.Perm others) (hok : (rollCall connect candidates).2 = .ok links) :
    (rollCall connect others).2 = .ok links := by
  have once := (tracks connect candidates).result_isOk_iff.mp ⟨links, hok⟩
  have htold : (told connect candidates).Perm (told connect others) := hperm.filterMap _
  have once' : ∀ id < panelCount, (told connect others).count id = 1 := fun id inside =>
    (htold.count_eq id).symm.trans (once id inside)
  obtain ⟨links', hok'⟩ := (tracks connect others).result_isOk_iff.mpr once'
  -- A place is told once among the same candidates, so its link comes from the same one.
  have same (place : Fin 3) : links'.get place = links.get place := by
    obtain ⟨c, hc, id, hid, hclaim⟩ := (tracks connect candidates).exists_claimant hok place
    obtain ⟨d, hd, id', hid', hclaim'⟩ := (tracks connect others).exists_claimant hok' place
    have hcd : c = d :=
      teller_unique (once place.val place.isLt) hc (hperm.mem_iff.mpr hd)
        (hid ▸ congrArg (Option.map _) hclaim) (hid' ▸ congrArg (Option.map _) hclaim')
    rw [hcd] at hclaim
    exact congrArg Prod.snd (Option.some.inj (hclaim'.symm.trans hclaim))
  have hlinks : links' = links := Trio.ext (same 0) (same 1) (same 2)
  exact hlinks ▸ hok'

end RollCall

/-- A roll call reports on every candidate once and in order, with the identity that it tells or
with what kept it from telling one. It succeeds exactly if each place is told by one candidate, and
then each place has the link of the candidate that told it, in whatever order they are asked.
Otherwise the missing places are those that nobody told, ascending, and the duplicates, never more
than there are places, those that were told more than once, each once and in the order of the second
claims. -/
theorem rollCall_exact {κ ℓ : Type} [Link ℓ] (connect : κ → Except OpeningError ℓ)
    (candidates : List κ) :
    let ids := RollCall.told connect candidates
    let answer := rollCall connect candidates
    List.Forall₂ (fun candidate report => report.candidate = candidate ∧
      ∃ outcome, RollCall.Asked connect candidate outcome ∧
        report.outcome = outcome.map Prod.fst) candidates answer.1 ∧
    (∀ (opened link : ℓ) (id : UInt8), Link.askIdentity opened = (.ok id, link) ↔
      Link.exchange .askId [] opened = (.ok [id], link)) ∧
    ((∃ links, answer.2 = .ok links) ↔ ∀ id < panelCount, ids.count id = 1) ∧
    (∀ links, answer.2 = .ok links →
      (∀ place : Fin 3, ∃ candidate ∈ candidates, ∃ (id : UInt8) (opened : ℓ),
        id.toNat = place.val ∧ connect candidate = .ok opened ∧
          Link.askIdentity opened = (.ok id, links.get place)) ∧
      ∀ others, candidates.Perm others → (rollCall connect others).2 = .ok links) ∧
    ∀ e, answer.2 = .error e →
      e.missing = (List.range panelCount).filter (fun id => ids.count id = 0) ∧
      (∀ id, id ∈ e.duplicates ↔ id < panelCount ∧ 2 ≤ ids.count id) ∧
      e.duplicates.Nodup ∧ e.duplicates.length ≤ panelCount ∧
      e.duplicates.Pairwise (RollCall.SecondClaimBefore ids) := by
  intro ids answer
  have htracks := RollCall.tracks connect candidates
  refine ⟨?_, fun _ _ _ => Link.askIdentity_eq_ok_iff, htracks.result_isOk_iff,
    fun links hok => ⟨fun place => ?_, fun others hperm => RollCall.links_perm hperm hok⟩,
    fun e herror => ?_⟩
  · exact RollCall.reports_of_asked connect candidates
  · obtain ⟨candidate, hmem, id, hid, hclaim⟩ := htracks.exists_claimant hok place
    obtain ⟨opened, opening, answer⟩ := RollCall.claim?_eq_some_iff.mp hclaim
    exact ⟨candidate, hmem, id, opened, hid, opening, answer⟩
  · obtain rfl := RollCall.Found.eq_of_result_eq_error herror
    exact ⟨htracks.missing, htracks.mem_duplicates, htracks.nodup, htracks.length_duplicates_le,
      htracks.ordered⟩

end Marquee
