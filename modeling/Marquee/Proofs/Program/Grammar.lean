import Marquee.Program.Grammar

/-!
# Reading the groups of a command line

A number after a text or an image is taken only if it is one, which takes a look at the next
argument. As the name of a flag is never a number, this look always tells whether the next argument
still belongs to the group (`FlagFirst`). So the arguments of a group are read as what the group
says (`Arguments.readOnto_group`), whatever comes after them, and groups in a row one after another
(`Arguments.readOnto_line`). Nothing else is read (`Arguments.exists_line`), and a line falls into
groups in one way only (`ArgumentGroup.line_inj`).
-/

namespace Marquee

/-- A text is read as one number only. -/
theorem Spelled.text_inj {α : Type} {read? : String → Option α} {m n : Spelled read?} :
    m.text = n.text ↔ m = n := by
  refine ⟨fun h => ?_, congrArg _⟩
  obtain ⟨text, value, reads⟩ := m
  obtain ⟨text', value', reads'⟩ := n
  obtain rfl : text = text' := h
  obtain rfl := Option.some.inj (reads.symm.trans reads')
  rfl

/-! ## Where a group ends -/

/-- No number comes first. -/
def FlagFirst (words : List String) : Prop :=
  ∀ word rest, words = word :: rest → Numeral.int32? word = none ∧ Numeral.word? word = none

namespace FlagFirst

/-- Words that begin with a flag do not begin with a numeral. -/
theorem int32 {word : String} {rest : List String} (h : FlagFirst (word :: rest)) :
    Numeral.int32? word = none := (h word rest rfl).1

theorem word {word : String} {rest : List String} (h : FlagFirst (word :: rest)) :
    Numeral.word? word = none := (h word rest rfl).2

/-- Words that begin with a flag are not those of a numeral and others. -/
theorem ne_int32 {words : List String} (h : FlagFirst words) (x : Spelled Numeral.int32?)
    (rest : List String) : words ≠ x.text :: rest := by
  rintro rfl
  exact Option.some_ne_none x.value (x.reads.symm.trans h.int32)

theorem ne_word {words : List String} (h : FlagFirst words) (x : Spelled Numeral.word?)
    (rest : List String) : words ≠ x.text :: rest := by
  rintro rfl
  exact Option.some_ne_none x.value (x.reads.symm.trans h.word)

end FlagFirst

namespace ArgumentGroup

@[simp] theorem line_nil : line [] = [] := rfl

@[simp] theorem line_cons (g : ArgumentGroup) (groups : List ArgumentGroup) :
    line (g :: groups) = g.words ++ line groups := List.flatMap_cons

/-- A group begins with the name of a flag. -/
theorem flagFirst_words (g : ArgumentGroup) (rest : List String) : FlagFirst (g.words ++ rest) := by
  rintro word rest' h
  cases g <;> obtain rfl := (List.cons.inj h).1 <;> exact ⟨by decide, by decide⟩

/-- The words of groups begin with a flag, or there are none. -/
theorem flagFirst_line (groups : List ArgumentGroup) : FlagFirst (line groups) := by
  cases groups with
  | nil => nofun
  | cons g rest => exact flagFirst_words g _

end ArgumentGroup

/-! ## One group -/

namespace ArgumentGroup

variable {g : ArgumentGroup}

/-- A group with an errand says nothing else. -/
theorem only_errand {errand : Errand} (h : g.errand? = some errand) :
    g.config? = none ∧ g.simulates = false ∧ g.helps = false := by
  cases g with
  | config | simulate | shortHelp | help => cases h
  | _ => exact ⟨rfl, rfl, rfl⟩

end ArgumentGroup

namespace Arguments

/-- Arguments after one more group. -/
def after (a : Arguments) (g : ArgumentGroup) : Except UsageError Arguments :=
  match g.errand? with
  | some errand => a.withErrand errand
  | .none => .ok { a with
      config := g.config?.or a.config
      simulate := a.simulate || g.simulates
      help := a.help || g.helps }

variable {rest : List String} (a : Arguments)

/-- A spelled number is read as its value. -/
theorem numeral_spelled {α : Type} {read? : String → Option α} (flag : String)
    (n : Spelled read?) : numeral flag read? n.text = .ok n.value := by
  rw [numeral, n.reads]

/-- At the end of the words the arguments so far are the result. -/
theorem bind_readOnto_nil (result : Except UsageError Arguments) :
    result >>= readOnto [] = result := by
  cases result with
  | error e => rfl
  | ok a => exact readOnto.eq_1 a

theorem after_config (path : String) :
    a.after (.config path) = .ok { a with config := some path } := by
  simp [after, ArgumentGroup.errand?, ArgumentGroup.config?, ArgumentGroup.simulates,
    ArgumentGroup.helps]

theorem after_simulate : a.after .simulate = .ok { a with simulate := true } := by
  simp [after, ArgumentGroup.errand?, ArgumentGroup.config?, ArgumentGroup.simulates,
    ArgumentGroup.helps]

/-- A group that asks for help does nothing but that. -/
theorem after_helps {g : ArgumentGroup} (h : g.helps = true) :
    a.after g = .ok { a with help := true } := by
  cases g <;> cases h <;>
    simp [after, ArgumentGroup.errand?, ArgumentGroup.config?, ArgumentGroup.simulates,
      ArgumentGroup.helps]

/-- The arguments of a group are read as what the group says, unless a number comes after them. -/
theorem readOnto_group (g : ArgumentGroup) (h : FlagFirst rest) :
    readOnto (g.words ++ rest) a = a.after g >>= readOnto rest := by
  rw [readOnto.eq_def]
  cases g with
  | config path => simp [ArgumentGroup.words, after_config]; rfl
  | simulate => simp [ArgumentGroup.words, after_simulate]; rfl
  | storeId id => simp [ArgumentGroup.words, numeral_spelled]; rfl
  | askId => simp [ArgumentGroup.words]; rfl
  | text content =>
    cases rest with
    | nil => simp [ArgumentGroup.words, bind_readOnto_nil]; rfl
    | cons word rest => simp [ArgumentGroup.words, h.int32]; rfl
  | textAt content x y => simp [ArgumentGroup.words, x.reads, numeral_spelled]; rfl
  | image path =>
    cases rest with
    | nil => simp [ArgumentGroup.words, bind_readOnto_nil]; rfl
    | cons word rest => simp [ArgumentGroup.words, h.word]; rfl
  | imageFrom path x => simp [ArgumentGroup.words, x.reads]; rfl
  | shortHelp => simp [ArgumentGroup.words, a.after_helps (g := .shortHelp) rfl]; rfl
  | help => simp [ArgumentGroup.words, a.after_helps (g := .help) rfl]; rfl

/-! ## Groups in a row -/

/-- Arguments after groups in a row. -/
def gather (a : Arguments) (groups : List ArgumentGroup) : Arguments where
  config := (groups.filterMap ArgumentGroup.config?).getLast?.or a.config
  simulate := a.simulate || groups.any ArgumentGroup.simulates
  errand := a.errand.or (ArgumentGroup.errands groups).head?
  help := a.help || groups.any ArgumentGroup.helps

/-- Groups gathered onto nothing make their own arguments. -/
theorem gather_none (groups : List ArgumentGroup) : gather .none groups = ofGroups groups := by
  simp [gather, ofGroups, Arguments.none]

/-- A group without an errand goes into the arguments in its turn. -/
theorem gather_cons_of_plain {g : ArgumentGroup} (h : g.errand? = .none)
    (groups : List ArgumentGroup) :
    a.gather (g :: groups) =
      gather { a with
        config := g.config?.or a.config
        simulate := a.simulate || g.simulates
        help := a.help || g.helps } groups := by
  simp [gather, ArgumentGroup.errands, h, Bool.or_assoc, Option.or_assoc]

/-- Groups in a row are read one after another, unless there is a second errand among them. -/
theorem readOnto_line (groups : List ArgumentGroup) :
    readOnto (ArgumentGroup.line groups) a =
      if (a.errand.toList ++ ArgumentGroup.errands groups).length ≤ 1 then .ok (a.gather groups)
      else .error .exclusive := by
  induction groups generalizing a with
  | nil =>
    have hone : (a.errand.toList ++ ArgumentGroup.errands []).length ≤ 1 := by
      cases a.errand <;> simp [ArgumentGroup.errands]
    rw [if_pos hone, ArgumentGroup.line_nil, readOnto.eq_1]
    simp [gather, ArgumentGroup.errands]
  | cons g groups ih =>
    rw [ArgumentGroup.line_cons, readOnto_group a g (ArgumentGroup.flagFirst_line groups), after]
    cases herrand : g.errand? with
    | none =>
      rw [gather_cons_of_plain a herrand, ArgumentGroup.errands, List.filterMap_cons_none herrand]
      exact ih _
    | some errand =>
      obtain ⟨hconfig, hsimulates, hhelps⟩ := ArgumentGroup.only_errand herrand
      rw [ArgumentGroup.errands, List.filterMap_cons_some herrand]
      dsimp only
      cases hheld : a.errand with
      | none =>
        rw [withErrand, hheld]
        refine (ih _).trans ?_
        simp [gather, hheld, ArgumentGroup.errands, hconfig, hsimulates, hhelps, herrand]
      | some held =>
        rw [withErrand, hheld, if_neg (by simp)]
        rfl

/-! ## Nothing else is read -/

/-- A series that succeeds began with a success. -/
theorem exists_of_bind_eq_ok {ε α β : Type} {x : Except ε α} {f : α → Except ε β} {b : β}
    (h : x >>= f = .ok b) : ∃ a, x = .ok a ∧ f a = .ok b := by
  cases x with
  | error e => cases h
  | ok a => exact ⟨a, rfl, h⟩

/-- A number that is read from a word is the one that the word spells. -/
theorem reads_of_numeral {α : Type} {flag value : String} {read? : String → Option α} {n : α}
    (h : numeral flag read? value = .ok n) : read? value = some n := by
  rw [numeral] at h
  cases hread : read? value with
  | none => rw [hread] at h; cases h
  | some m =>
    rw [hread] at h
    rw [Except.ok.inj h]

/-- What is read is groups in a row. -/
theorem exists_line {words : List String} {a a' : Arguments} (h : readOnto words a = .ok a') :
    ∃ groups, words = ArgumentGroup.line groups := by
  -- A group is followed by what the rest of the reading takes for groups.
  have followed {g : ArgumentGroup} {rest : List String}
      (hrest : ∃ groups, rest = ArgumentGroup.line groups) :
      ∃ groups, g.words ++ rest = ArgumentGroup.line groups := by
    obtain ⟨groups, rfl⟩ := hrest
    exact ⟨g :: groups, (ArgumentGroup.line_cons g groups).symm⟩
  fun_induction readOnto words a with
  | case1 => exact ⟨[], rfl⟩
  | case2 | case5 | case8 | case11 | case13 | case18 => cases h
  | case3 a path rest ih => exact followed (g := .config path) (ih h)
  | case4 rest a _ ih => exact followed (g := .simulate) (ih h)
  | case6 a value rest _ _ ih =>
    obtain ⟨id, hid, h⟩ := exists_of_bind_eq_ok h
    obtain ⟨a, -, h⟩ := exists_of_bind_eq_ok h
    exact followed (g := .storeId ⟨value, id, reads_of_numeral hid⟩) (ih a h)
  | case7 rest a _ _ _ ih =>
    obtain ⟨a, -, h⟩ := exists_of_bind_eq_ok h
    exact followed (g := .askId) (ih a h)
  | case9 a content => exact followed (g := .text content) ⟨[], rfl⟩
  | case10 a content word rest _ _ _ _ _ ih =>
    obtain ⟨a, -, h⟩ := exists_of_bind_eq_ok h
    exact followed (g := .text content) (ih a h)
  | case12 a content first x hx second rest _ _ _ _ ih =>
    obtain ⟨y, hy, h⟩ := exists_of_bind_eq_ok h
    obtain ⟨a, -, h⟩ := exists_of_bind_eq_ok h
    exact followed (g := .textAt content ⟨first, x, hx⟩ ⟨second, y, reads_of_numeral hy⟩) (ih a h)
  | case14 a path => exact followed (g := .image path) ⟨[], rfl⟩
  | case15 a path word rest _ _ _ _ _ _ ih =>
    obtain ⟨a, -, h⟩ := exists_of_bind_eq_ok h
    exact followed (g := .image path) (ih a h)
  | case16 a path first rest x hx _ _ _ _ _ ih =>
    obtain ⟨a, -, h⟩ := exists_of_bind_eq_ok h
    exact followed (g := .imageFrom path ⟨first, x, hx⟩) (ih a h)
  | case17 flag rest a _ _ _ _ _ _ hflag ih =>
    rcases hflag with rfl | rfl
    · exact followed (g := .shortHelp) (ih h)
    · exact followed (g := .help) (ih h)

end Arguments

/-! ## One way only -/

namespace ArgumentGroup

variable {g g' : ArgumentGroup} {rest rest' : List String}

/-- Where a group ends can be told from what comes after it. -/
theorem words_append_inj (hrest : FlagFirst rest) (hrest' : FlagFirst rest')
    (h : g.words ++ rest = g'.words ++ rest') : g = g' ∧ rest = rest' := by
  -- The flag tells the group, up to the numbers that may or may not follow.
  cases g <;> cases g' <;> simp [words, Spelled.text_inj] at h ⊢
  case text.textAt x y => exact hrest.ne_int32 x _ h.2
  case textAt.text x y _ => exact hrest'.ne_int32 x _ h.2.symm
  case image.imageFrom x => exact hrest.ne_word x _ h.2
  case imageFrom.image x _ => exact hrest'.ne_word x _ h.2.symm
  all_goals simpa [and_assoc] using h

/-- The groups can be told from the words. -/
theorem line_inj {groups groups' : List ArgumentGroup} (h : line groups = line groups') :
    groups = groups' := by
  induction groups generalizing groups' with
  | nil =>
    cases groups' with
    | nil => rfl
    | cons g' rest' => cases g' <;> cases h
  | cons g rest ih =>
    cases groups' with
    | nil => cases g <;> cases h
    | cons g' rest' =>
      obtain ⟨rfl, hrest⟩ := words_append_inj (flagFirst_line rest) (flagFirst_line rest') h
      rw [ih hrest]

end ArgumentGroup

/-! ## The grammar -/

/-- The arguments that are read are those that fall into groups with at most one errand among them,
and they fall into groups in one way only. What is read is then what the groups say. Any other
arguments are refused with a usage error, and if they do fall into groups the error is that there is
more than one errand. -/
theorem arguments_grammar (words : List String) :
    (∀ a, Arguments.read words = .ok a ↔
      ∃ groups, words = ArgumentGroup.line groups ∧
        (ArgumentGroup.errands groups).length ≤ 1 ∧ a = .ofGroups groups) ∧
    (∀ groups groups', words = ArgumentGroup.line groups → words = ArgumentGroup.line groups' →
      groups = groups') ∧
    ((¬ ∃ groups, words = ArgumentGroup.line groups ∧
        (ArgumentGroup.errands groups).length ≤ 1) →
      ∃ e : UsageError, Arguments.read words = .error e) ∧
    ∀ groups, words = ArgumentGroup.line groups → 1 < (ArgumentGroup.errands groups).length →
      Arguments.read words = .error .exclusive := by
  have hread (groups : List ArgumentGroup) : Arguments.read (ArgumentGroup.line groups) =
      if (ArgumentGroup.errands groups).length ≤ 1 then .ok (.ofGroups groups)
      else .error .exclusive := by
    rw [Arguments.read, Arguments.readOnto_line, Arguments.gather_none]
    rfl
  have hgroups {a : Arguments} (h : Arguments.read words = .ok a) :
      ∃ groups, words = ArgumentGroup.line groups ∧
        (ArgumentGroup.errands groups).length ≤ 1 ∧ a = .ofGroups groups := by
    obtain ⟨groups, rfl⟩ := Arguments.exists_line h
    rw [hread] at h
    by_cases hone : (ArgumentGroup.errands groups).length ≤ 1
    · rw [if_pos hone] at h
      exact ⟨groups, rfl, hone, (Except.ok.inj h).symm⟩
    · rw [if_neg hone] at h
      cases h
  refine ⟨fun a => ⟨hgroups, ?_⟩, ?_, fun hnone => ?_, ?_⟩
  · rintro ⟨groups, rfl, hone, rfl⟩
    rw [hread, if_pos hone]
  · rintro groups groups' rfl h
    exact ArgumentGroup.line_inj h
  · cases h : Arguments.read words with
    | error e => exact ⟨e, rfl⟩
    | ok a =>
      obtain ⟨groups, hwords, hone, -⟩ := hgroups h
      exact absurd ⟨groups, hwords, hone⟩ hnone
  · rintro groups rfl htwo
    rw [hread, if_neg (Nat.not_le.mpr htwo)]

end Marquee
