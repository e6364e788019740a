import Marquee.Proofs.Link.Attempt
import Marquee.Service.Jobs
import Marquee.Service.Rounds

/-!
# What a tour comes to

Panels know nothing of each other, so what a tour does to a panel is what the calls at its place do
to it one after another. If no visit fails, all were made and every panel has accepted its calls
(`tour_ok`); if one fails it is the last, and the ones before it come to a tour without a failure
(`tour_error`). For rounds this says how far every panel has come (`rounds_ok`, `rounds_error`), and
the jobs on a crew are rounds (`each_tour`, `showRows_tour`).
-/

namespace Marquee

variable {ℓ : Type} [Link ℓ]

/-! ## One panel -/

namespace Call

variable {calls more : List Call} {call : Call} {link mid link' : ℓ}

/-- Calls in a row are made one part after the other. -/
theorem visitAll_append (calls more : List Call) :
    (visitAll (calls ++ more) : Attempt ℓ LinkError Unit) =
      visitAll calls >>= fun _ => visitAll more := by
  induction calls with
  | nil => rfl
  | cons call rest ih => rw [List.cons_append, visitAll, visitAll, ih, bind_assoc]

theorem accepted_cons (h : call.visit link = (.ok (), mid)) :
    Accepted (call :: more) link link' ↔ Accepted more mid link' := by
  rw [Accepted, visitAll, Attempt.bind_of_ok h, Accepted]

theorem accepted_singleton :
    Accepted [call] link link' ↔ call.visit link = (.ok (), link') := by
  rw [Accepted, visitAll, visitAll, bind_pure_unit]

/-- A panel that fails one call has not accepted the calls that begin with it. -/
theorem not_accepted_of_error {e : LinkError} (h : call.visit link = (.error e, mid)) :
    ¬ Accepted (call :: more) link link' := by
  rw [Accepted, visitAll, Attempt.bind_of_error h]
  exact fun h => nomatch h

/-- A failure after calls that were accepted is the failure of the whole series. -/
theorem visitAll_of_error {e : LinkError} (more : List Call) (h : Accepted calls link mid)
    (hcall : call.visit mid = (.error e, link')) :
    visitAll (calls ++ call :: more) link = (.error e, link') := by
  rw [visitAll_append, Attempt.bind_of_ok h]
  exact Attempt.bind_of_error hcall

end Call

/-! ## Several panels -/

namespace Visit

/-- What a panel is asked in two series is what it is asked in one and then in the other. -/
theorem callsAt_append (place : Nat) (visits more : List Visit) :
    callsAt place (visits ++ more) = callsAt place visits ++ callsAt place more := by
  rw [callsAt, List.filter_append, List.map_append]
  rfl

theorem callsAt_cons_self (visit : Visit) (rest : List Visit) :
    callsAt visit.place (visit :: rest) = visit.call :: callsAt visit.place rest := by
  rw [callsAt, List.filter_cons_of_pos (by simp)]
  rfl

theorem callsAt_cons_of_ne {place : Nat} {visit : Visit} (h : place ≠ visit.place)
    (rest : List Visit) : callsAt place (visit :: rest) = callsAt place rest := by
  rw [callsAt, List.filter_cons_of_neg (by simpa using h.symm)]
  rfl

/-- After a visit there are panels for the rest of the visits if there were for all. -/
theorem places_set {α : Type} {panels : List α} {visit : Visit} {rest : List Visit}
    (places : ∀ other ∈ visit :: rest, other.place < panels.length) (panel : α) :
    ∀ other ∈ rest, other.place < (panels.set visit.place panel).length := by
  intro other hother
  rw [List.length_set]
  exact places other (List.mem_cons_of_mem visit hother)

end Visit

/-- The panel at a place, if there is one, accepts the calls, and they leave it as it is then. -/
def AcceptedAt (place : Nat) (calls : List Call) (panels panels' : List ℓ) : Prop :=
  ∀ link, panels[place]? = some link →
    ∃ link', panels'[place]? = some link' ∧ Call.Accepted calls link link'

/-- A panel that had no call is as it was. -/
theorem AcceptedAt.eq_of_nil {place : Nat} {panels panels' : List ℓ}
    (h : AcceptedAt place [] panels panels') (hlength : panels'.length = panels.length) :
    panels'[place]? = panels[place]? := by
  cases hlink : panels[place]? with
  | none =>
    rw [List.getElem?_eq_none_iff] at hlink ⊢
    exact hlength ▸ hlink
  | some link =>
    obtain ⟨link', hlink', haccepted⟩ := h link hlink
    obtain rfl : link = link' := congrArg Prod.snd haccepted
    exact hlink'

section Tour

variable {panels : List ℓ} {visit : Visit} {link link' : ℓ} {e : LinkError}

/-- A place without a panel is passed over. -/
theorem tour_cons_of_none (h : panels[visit.place]? = none) (rest : List Visit) :
    tour panels (visit :: rest) = tour panels rest := by
  rw [tour, h]

/-- The first failure ends a tour, and what the failed call did to its panel stays. -/
theorem tour_cons_of_error (h : panels[visit.place]? = some link)
    (hvisit : visit.call.visit link = (.error e, link')) (rest : List Visit) :
    tour panels (visit :: rest) = ⟨[visit], .error e, panels.set visit.place link'⟩ := by
  simp only [tour, h, hvisit]

/-- A visit that succeeds is made before all others. -/
theorem tour_cons_of_ok (h : panels[visit.place]? = some link)
    (hvisit : visit.call.visit link = (.ok (), link')) (rest : List Visit) :
    tour panels (visit :: rest) =
      { tour (panels.set visit.place link') rest with
        made := visit :: (tour (panels.set visit.place link') rest).made } := by
  simp only [tour, h, hvisit]

/-- A tour neither loses nor adds a panel. -/
theorem length_tour (panels : List ℓ) (visits : List Visit) :
    (tour panels visits).panels.length = panels.length := by
  induction visits generalizing panels with
  | nil => rfl
  | cons visit rest ih =>
    cases h : panels[visit.place]? with
    | none => rw [tour_cons_of_none h, ih]
    | some link =>
      rcases hvisit : visit.call.visit link with ⟨e | _, link'⟩
      · rw [tour_cons_of_error h hvisit, List.length_set]
      · rw [tour_cons_of_ok h hvisit, ih, List.length_set]

/-- A tour goes on where one without a failure has ended. -/
theorem tour_append (panels : List ℓ) (visits more : List Visit) :
    tour panels (visits ++ more) =
      match (tour panels visits).result with
      | .error _ => tour panels visits
      | .ok () =>
        { tour (tour panels visits).panels more with
          made := (tour panels visits).made ++ (tour (tour panels visits).panels more).made } := by
  induction visits generalizing panels with
  | nil => rfl
  | cons visit rest ih =>
    rw [List.cons_append]
    cases h : panels[visit.place]? with
    | none => rw [tour_cons_of_none h, tour_cons_of_none h, ih]
    | some link =>
      rcases hvisit : visit.call.visit link with ⟨e | _, link'⟩
      · rw [tour_cons_of_error h hvisit, tour_cons_of_error h hvisit]
      · rw [tour_cons_of_ok h hvisit, tour_cons_of_ok h hvisit, ih]
        cases (tour (panels.set visit.place link') rest).result <;> rfl

/-- After a failure no visit is made. -/
theorem tour_append_of_error {visits : List Visit} (h : (tour panels visits).result = .error e)
    (more : List Visit) : tour panels (visits ++ more) = tour panels visits := by
  rw [tour_append, h]

/-- A tour that succeeds is followed by the next one, which begins with the panels as they are then.
-/
theorem tour_append_of_ok {visits : List Visit} (h : (tour panels visits).result = .ok ())
    (more : List Visit) :
    tour panels (visits ++ more) =
      { tour (tour panels visits).panels more with
        made := (tour panels visits).made ++ (tour (tour panels visits).panels more).made } := by
  rw [tour_append, h]

/-- A tour without a failure makes all its visits, and every panel accepts the calls at its
place. -/
theorem tour_ok {visits : List Visit} (places : ∀ visit ∈ visits, visit.place < panels.length)
    (hok : (tour panels visits).result = .ok ()) :
    (tour panels visits).made = visits ∧
      ∀ place, AcceptedAt place (Visit.callsAt place visits) panels
        (tour panels visits).panels := by
  induction visits generalizing panels with
  | nil => exact ⟨rfl, fun place link h => ⟨link, h, rfl⟩⟩
  | cons visit rest ih =>
    have hplace := places visit List.mem_cons_self
    have h : panels[visit.place]? = some panels[visit.place] := List.getElem?_eq_getElem hplace
    rcases hvisit : visit.call.visit panels[visit.place] with ⟨e | _, link'⟩
    · rw [tour_cons_of_error h hvisit] at hok
      cases hok
    rw [tour_cons_of_ok h hvisit] at hok ⊢
    obtain ⟨hmade, haccepted⟩ := ih (Visit.places_set places link') hok
    refine ⟨congrArg (visit :: ·) hmade, fun place link hlink => ?_⟩
    by_cases here : place = visit.place
    · subst here
      obtain rfl := Option.some.inj (h.symm.trans hlink)
      obtain ⟨last, hlast, hcalls⟩ := haccepted visit.place link' (List.getElem?_set_self hplace)
      refine ⟨last, hlast, ?_⟩
      rw [Visit.callsAt_cons_self]
      exact (Call.accepted_cons hvisit).mpr hcalls
    · obtain ⟨last, hlast, hcalls⟩ :=
        haccepted place link ((List.getElem?_set_ne (Ne.symm here)).trans hlink)
      refine ⟨last, hlast, ?_⟩
      rw [Visit.callsAt_cons_of_ne here]
      exact hcalls

/-- The visit that fails is the last one, after a tour without a failure. -/
theorem tour_error {visits : List Visit} (places : ∀ visit ∈ visits, visit.place < panels.length)
    (herror : (tour panels visits).result = .error e) :
    ∃ done last link link', done ++ [last] <+: visits ∧
      (tour panels visits).made = done ++ [last] ∧ (tour panels done).result = .ok () ∧
      (tour panels done).panels[last.place]? = some link ∧
      last.call.visit link = (.error e, link') ∧
      (tour panels visits).panels = (tour panels done).panels.set last.place link' := by
  induction visits generalizing panels with
  | nil => cases herror
  | cons visit rest ih =>
    have hplace := places visit List.mem_cons_self
    have h : panels[visit.place]? = some panels[visit.place] := List.getElem?_eq_getElem hplace
    rcases hvisit : visit.call.visit panels[visit.place] with ⟨failure | _, link'⟩
    · rw [tour_cons_of_error h hvisit] at herror ⊢
      cases herror
      exact ⟨[], visit, _, link', ⟨rest, rfl⟩, rfl, rfl, h, hvisit, rfl⟩
    rw [tour_cons_of_ok h hvisit] at herror ⊢
    obtain ⟨done, last, link, link'', hdone, hmade, hok, hlast, hfails, hpanels⟩ :=
      ih (Visit.places_set places link') herror
    refine ⟨visit :: done, last, link, link'', List.cons_prefix_cons.mpr ⟨rfl, hdone⟩,
      congrArg (visit :: ·) hmade, ?_⟩
    rw [tour_cons_of_ok h hvisit]
    exact ⟨hok, hlast, hfails, hpanels⟩

end Tour

/-! ## Rounds -/

section Rounds

variable {n place : Nat} {call : Call} {calls : List Call}

theorem rounds_cons (n : Nat) (call : Call) (rest : List Call) :
    rounds n (call :: rest) = round n call ++ rounds n rest := List.flatMap_cons

theorem rounds_singleton (n : Nat) (call : Call) : rounds n [call] = round n call :=
  List.flatMap_singleton _ _

/-- A round visits only the panels that there are. -/
theorem place_lt_of_mem_rounds {visit : Visit} (h : visit ∈ rounds n calls) : visit.place < n := by
  obtain ⟨call, -, hvisit⟩ := List.mem_flatMap.mp h
  obtain ⟨place, hplace, rfl⟩ := List.mem_map.mp hvisit
  exact List.mem_range.mp hplace

/-- A round makes its call once at each place. -/
theorem callsAt_round (n : Nat) (call : Call) (place : Nat) :
    Visit.callsAt place (round n call) = if place < n then [call] else [] := by
  induction n with
  | zero => rfl
  | succ n ih =>
    have hsucc : round (n + 1) call = round n call ++ [⟨n, call⟩] := by
      rw [round, List.range_succ, List.map_append]
      rfl
    rw [hsucc, Visit.callsAt_append, ih]
    rcases Nat.lt_trichotomy place n with hlt | rfl | hgt
    · rw [if_pos hlt, if_pos (by omega), Visit.callsAt_cons_of_ne (Nat.ne_of_lt hlt)]
      rfl
    · rw [if_neg (Nat.lt_irrefl place), if_pos (Nat.lt_succ_self place)]
      exact Visit.callsAt_cons_self ⟨place, call⟩ []
    · rw [if_neg (by omega), if_neg (by omega), Visit.callsAt_cons_of_ne (Nat.ne_of_gt hgt)]
      rfl

/-- In rounds every place has all calls, in their order. -/
theorem callsAt_rounds (hplace : place < n) (calls : List Call) :
    Visit.callsAt place (rounds n calls) = calls := by
  induction calls with
  | nil => rfl
  | cons call rest ih =>
    rw [rounds_cons, Visit.callsAt_append, callsAt_round, if_pos hplace, ih]
    rfl

/-- Rounds that end with a visit are whole rounds and one that has come as far as this visit. -/
theorem exists_of_prefix_rounds {done : List Visit} {last : Visit}
    (h : done ++ [last] <+: rounds n calls) :
    ∃ y, ∃ hy : y < calls.length, last.place < n ∧ last.call = calls[y] ∧
      done = rounds n (calls.take y) ++ round last.place calls[y] := by
  induction calls generalizing done with
  | nil =>
    have hlength := h.length_le
    rw [List.length_append] at hlength
    exact absurd hlength (by simp [rounds])
  | cons call rest ih =>
    rw [rounds_cons] at h
    have hround : (round n call).length = n := by rw [round, List.length_map, List.length_range]
    rcases Nat.lt_or_ge done.length n with hfirst | hlater
    · -- The visit is in the first round, whose first visits are a round of fewer panels.
      have hprefix : done ++ [last] <+: round n call := by
        refine List.prefix_of_prefix_length_le h (List.prefix_append _ _) ?_
        rw [List.length_append, List.length_singleton, hround]
        omega
      have htake : done ++ [last] = round done.length call ++ [⟨done.length, call⟩] := by
        rw [List.prefix_iff_eq_take.mp hprefix, round, ← List.map_take, List.take_range,
          List.length_append, List.length_singleton, Nat.min_eq_left (by omega),
          List.range_succ, List.map_append]
        rfl
      obtain ⟨hdone, hlast⟩ := List.append_inj' htake rfl
      obtain rfl := List.singleton_inj.mp hlast
      exact ⟨0, Nat.zero_lt_succ _, hfirst, rfl, hdone⟩
    · -- The first round is done, and the visit is in the rounds after it.
      have hprefix : round n call <+: done := by
        refine List.prefix_of_prefix_length_le (List.prefix_append _ (rounds n rest))
          ((List.prefix_append done [last]).trans h) ?_
        rw [hround]
        exact hlater
      obtain ⟨more, rfl⟩ := hprefix
      rw [List.append_assoc, List.prefix_append_right_inj] at h
      obtain ⟨y, hy, hplace, hcall, rfl⟩ := ih h
      refine ⟨y + 1, Nat.succ_lt_succ hy, hplace, hcall, ?_⟩
      rw [List.take_succ_cons, rounds_cons, List.append_assoc]
      rfl

/-- Rounds have come as far as round `y` at place `k`, and this visit has failed. -/
structure Tour.BreaksOff (t : Tour ℓ) (panels : List ℓ) (calls : List Call) (e : LinkError)
    (y : Fin calls.length) (k : Nat) : Prop where
  /-- there is a panel at the place -/
  place : k < panels.length
  /-- whole rounds were made, and then one up to the place -/
  made : t.made = rounds panels.length (calls.take y) ++ round (k + 1) calls[y]
  /-- the panels before it have accepted the call of this round too -/
  before : ∀ place < k, AcceptedAt place (calls.take (y + 1)) panels t.panels
  /-- the panel has accepted the calls of the rounds before, and failed at this one -/
  here : ∃ link mid link', panels[k]? = some link ∧ t.panels[k]? = some link' ∧
    Call.Accepted (calls.take y) link mid ∧ calls[y].visit mid = (.error e, link')
  /-- the panels after it have accepted the calls of the rounds before -/
  after : ∀ place, k < place → AcceptedAt place (calls.take y) panels t.panels

variable {panels : List ℓ} {e : LinkError}

/-- Rounds without a failure are all made, and every panel accepts all calls. -/
theorem rounds_ok (hok : (tour panels (rounds panels.length calls)).result = .ok ()) :
    (tour panels (rounds panels.length calls)).made = rounds panels.length calls ∧
      ∀ place, AcceptedAt place calls panels (tour panels (rounds panels.length calls)).panels := by
  obtain ⟨hmade, haccepted⟩ := tour_ok (fun visit => place_lt_of_mem_rounds) hok
  refine ⟨hmade, fun place link hlink => ?_⟩
  obtain ⟨hplace, -⟩ := List.getElem?_eq_some_iff.mp hlink
  have hcalls := haccepted place link hlink
  rw [callsAt_rounds hplace] at hcalls
  exact hcalls

/-- Rounds with a failure break off at some visit. -/
theorem rounds_error (herror : (tour panels (rounds panels.length calls)).result = .error e) :
    ∃ y k, (tour panels (rounds panels.length calls)).BreaksOff panels calls e y k := by
  obtain ⟨done, ⟨k, call⟩, mid, link', hprefix, hmade, hok, hmid, hfails, hpanels⟩ :=
    tour_error (fun visit => place_lt_of_mem_rounds) herror
  obtain ⟨y, hy, hplace, rfl, rfl⟩ := exists_of_prefix_rounds hprefix
  have hplaces : ∀ visit ∈ rounds panels.length (calls.take y) ++ round k calls[y],
      visit.place < panels.length := fun visit hvisit =>
    place_lt_of_mem_rounds ((((List.prefix_append _ _).trans hprefix).subset) hvisit)
  obtain ⟨-, haccepted⟩ := tour_ok hplaces hok
  -- What each panel has accepted before the failure.
  have hcalls {place : Nat} (hlt : place < panels.length) :
      Visit.callsAt place (rounds panels.length (calls.take y) ++ round k calls[y]) =
        calls.take y ++ if place < k then [calls[y]] else [] := by
    rw [Visit.callsAt_append, callsAt_rounds hlt, callsAt_round]
  have hother {place : Nat} (hne : k ≠ place) {link : ℓ} (hlink : panels[place]? = some link) :
      ∃ link', (tour panels (rounds panels.length calls)).panels[place]? = some link' ∧
        Call.Accepted (calls.take y ++ if place < k then [calls[y]] else []) link link' := by
    obtain ⟨hlt, -⟩ := List.getElem?_eq_some_iff.mp hlink
    obtain ⟨left, hleft, hall⟩ := haccepted place link hlink
    rw [hcalls hlt] at hall
    refine ⟨left, ?_, hall⟩
    rw [hpanels, List.getElem?_set_ne hne]
    exact hleft
  refine ⟨⟨y, hy⟩, k, hplace, ?_, fun place hbefore link hlink => ?_, ?_,
    fun place hafter link hlink => ?_⟩
  · have hround : round (k + 1) calls[y] = round k calls[y] ++ [⟨k, calls[y]⟩] := by
      rw [round, List.range_succ, List.map_append]
      rfl
    rw [hmade, List.append_assoc]
    exact congrArg _ hround.symm
  · have h := hother (Nat.ne_of_gt hbefore) hlink
    rw [if_pos hbefore, List.take_append_getElem hy] at h
    exact h
  · obtain ⟨left, hleft, hall⟩ := haccepted k panels[k] (List.getElem?_eq_getElem hplace)
    obtain rfl := Option.some.inj (hmid.symm.trans hleft)
    rw [hcalls hplace, if_neg (Nat.lt_irrefl k), List.append_nil] at hall
    refine ⟨_, _, link', List.getElem?_eq_getElem hplace, ?_, hall, hfails⟩
    rw [hpanels]
    exact List.getElem?_set_self (by rw [length_tour]; exact hplace)
  · have h := hother (Nat.ne_of_lt hafter) hlink
    rw [if_neg (Nat.lt_asymm hafter), List.append_nil] at h
    exact h

/-- Rounds of calls that every panel accepts do not fail. -/
theorem rounds_accepted (h : ∀ link ∈ panels, ∃ link', Call.Accepted calls link link') :
    (tour panels (rounds panels.length calls)).result = .ok () := by
  cases hresult : (tour panels (rounds panels.length calls)).result with
  | ok _ => rfl
  | error e =>
    obtain ⟨⟨y, hy⟩, k, hstop⟩ := rounds_error hresult
    obtain ⟨link, mid, link', hlink, -, haccepted, hfails⟩ := hstop.here
    obtain ⟨left, hall⟩ := h link (List.mem_of_getElem? hlink)
    have hsplit : calls.take y ++ calls[y] :: calls.drop (y + 1) = calls := by
      rw [← List.drop_eq_getElem_cons hy, List.take_append_drop]
    have hseries := Call.visitAll_of_error (calls.drop (y + 1)) haccepted hfails
    rw [← hsplit] at hall
    cases hall.symm.trans hseries

/-- Rounds break off in the first one if a panel fails there, at the first such panel. -/
theorem rounds_error_first {k : Nat} {link link' : ℓ} (hk : panels[k]? = some link)
    (hfails : call.visit link = (.error e, link'))
    (before : ∀ place < k, ∀ link, panels[place]? = some link →
      ∃ link', call.visit link = (.ok (), link')) (rest : List Call) :
    let t := tour panels (rounds panels.length (call :: rest))
    t.result = .error e ∧ (∀ place < k, AcceptedAt place [call] panels t.panels) ∧
      t.panels[k]? = some link' ∧ ∀ place, k < place → t.panels[place]? = panels[place]? := by
  intro t
  have never {more : List Call} {link' : ℓ} : ¬ Call.Accepted (call :: more) link link' :=
    Call.not_accepted_of_error hfails
  cases hresult : t.result with
  | ok _ =>
    obtain ⟨_, -, h⟩ := (rounds_ok hresult).2 k link hk
    exact absurd h never
  | error failure =>
    obtain ⟨⟨y, hy⟩, place, hstop⟩ := rounds_error hresult
    obtain ⟨first, mid, last, hfirst, hlast, haccepted, hend⟩ := hstop.here
    cases y with
    | succ y =>
      -- Every panel would have accepted the first call.
      rcases Nat.lt_trichotomy k place with hlt | rfl | hgt
      · obtain ⟨_, -, h⟩ := hstop.before k hlt link hk
        exact absurd h never
      · obtain rfl := Option.some.inj (hk.symm.trans hfirst)
        exact absurd haccepted never
      · obtain ⟨_, -, h⟩ := hstop.after k hgt link hk
        exact absurd h never
    | zero =>
      obtain rfl : first = mid := congrArg Prod.snd haccepted
      rcases Nat.lt_trichotomy k place with hlt | rfl | hgt
      · obtain ⟨_, -, h⟩ := hstop.before k hlt link hk
        exact absurd h never
      · obtain rfl := Option.some.inj (hk.symm.trans hfirst)
        obtain ⟨⟩ := hfails.symm.trans hend
        exact ⟨rfl, hstop.before, hlast, fun place hplace =>
          (hstop.after place hplace).eq_of_nil (length_tour _ _)⟩
      · obtain ⟨_, h⟩ := before place hgt first hfirst
        cases h.symm.trans hend

end Rounds

/-! ## Jobs in rounds -/

section Jobs

open Job (onEach each lastRow showRows)

/-- A job on each panel of a crew is a round. -/
theorem onEach_tour (call : Call) (said : Nat → Journal) (place : Nat) (done rest : List ℓ) :
    let visits := (List.range' done.length rest.length).map fun place => Visit.mk place call
    (tour (done ++ rest) visits).result = (onEach call.perform said place rest).1 ∧
      (tour (done ++ rest) visits).panels =
        done ++ (onEach call.perform said place rest).2.panels := by
  induction rest generalizing done place with
  | nil => exact ⟨rfl, rfl⟩
  | cons link rest ih =>
    have hlink : (done ++ link :: rest)[done.length]? = some link := by simp
    have hset (link' : ℓ) :
        (done ++ link :: rest).set done.length link' = (done ++ [link']) ++ rest := by simp
    have hvisits : (List.range' done.length (link :: rest).length).map (Visit.mk · call) =
        ⟨done.length, call⟩ ::
          (List.range' (done.length + 1) rest.length).map (Visit.mk · call) := rfl
    rcases hperform : call.perform link with ⟨e | _, link'⟩
    · have hvisit : call.visit link = (.error e, (Link.takeRemarks link').2) := by
        rw [Call.visit, hperform]
      dsimp only
      rw [hvisits, tour_cons_of_error hlink hvisit, hset, onEach, hperform]
      exact ⟨rfl, by rw [List.append_assoc]; rfl⟩
    · have hvisit : call.visit link = (.ok (), (Link.takeRemarks link').2) := by
        rw [Call.visit, hperform]
      obtain ⟨hresult, hpanels⟩ := ih (place + 1) (done ++ [(Link.takeRemarks link').2])
      rw [List.length_append, List.length_singleton] at hresult hpanels
      dsimp only
      rw [hvisits, tour_cons_of_ok hlink hvisit, hset, onEach, hperform]
      exact ⟨hresult, by rw [hpanels, List.append_assoc]; rfl⟩

/-- To call every panel once is a tour of one round. -/
theorem each_tour (call : Call) (said : Nat → Journal) (crew : Crew ℓ) :
    (tour crew.panels (round crew.panels.length call)).result = (each call.perform said crew).1 ∧
      (tour crew.panels (round crew.panels.length call)).panels =
        (each call.perform said crew).2.panels := by
  have h := onEach_tour call said 0 [] crew.panels
  rw [List.length_nil, ← List.range_eq_range'] at h
  exact h

variable {γ : Type} [Picture γ] {image : γ} {x row : Nat} {crew after : Crew ℓ}

/-- A row that a panel does not take is the last one. -/
theorem showRows_of_error {e : LinkError} (count : Nat)
    (h : each (Link.showBitmap (windowAt image x row).toList) (fun _ => []) crew =
      (.error e, after)) :
    showRows image x row (count + 1) crew = (.error e, after) := by
  simp only [showRows, h]

/-- A row that all panels take is followed by the next one, which finds the panels as this row has
left them. -/
theorem showRows_of_ok (count : Nat)
    (h : each (Link.showBitmap (windowAt image x row).toList) (fun _ => []) crew =
      (.ok (), after)) :
    ∃ after' : Crew ℓ, after'.panels = after.panels ∧
      showRows image x row (count + 1) crew = showRows image x (row + 1) count after' := by
  refine ⟨after.say .trace ("image row " ++ toString row ++ "/" ++ toString (lastRow image)),
    rfl, ?_⟩
  simp only [showRows, h]

/-- Windows one below the other are rounds, one for each window. -/
theorem showRows_tour (image : γ) (x row count : Nat) (crew : Crew ℓ) :
    let calls := (List.range' row count).map fun y => Call.showBitmap (windowAt image x y).toList
    (tour crew.panels (rounds crew.panels.length calls)).result =
        (showRows image x row count crew).1 ∧
      (tour crew.panels (rounds crew.panels.length calls)).panels =
        (showRows image x row count crew).2.panels := by
  induction count generalizing row crew with
  | zero => exact ⟨rfl, rfl⟩
  | succ count ih =>
    have hround := each_tour (.showBitmap (windowAt image x row).toList) (fun _ => []) crew
    have hlength := length_tour crew.panels
      (round crew.panels.length (.showBitmap (windowAt image x row).toList))
    dsimp only
    rw [List.range'_succ, List.map_cons, rounds_cons]
    rcases heach : each (Link.showBitmap (windowAt image x row).toList) (fun _ => []) crew with
      ⟨e | _, after⟩
    · obtain ⟨hresult, hpanels⟩ : _ = Except.error e ∧ _ = after.panels := heach ▸ hround
      rw [tour_append_of_error hresult, showRows_of_error count heach]
      exact ⟨hresult, hpanels⟩
    · obtain ⟨hresult, hpanels⟩ : _ = Except.ok () ∧ _ = after.panels := heach ▸ hround
      obtain ⟨after', hsame, hrows⟩ := showRows_of_ok count heach
      rw [hpanels, ← hsame] at hlength
      rw [tour_append_of_ok hresult, hrows, hpanels, ← hsame, ← hlength]
      exact ih (row + 1) after'

end Jobs

end Marquee
