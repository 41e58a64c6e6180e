import CommandLine.Proofs.Resolver.Sources

/-!
# The longest prefix decides

`Installed` is what some changes come to: the latest context under each prefix, and the defaults. It
is kept up by every change (`Sources.Holds.change`), and it determines the order of the prefixes
and all that is looked up (`Governs`, `Governs.unique`). `prefixes_decide`: so it does not matter in
which order contexts are installed under different prefixes.
-/

namespace CommandLine

open Resolver (environmentPrefix propertyPrefix precedes place)

/-! ## What is installed -/

/-- The latest context under each prefix, and the defaults. -/
structure Installed where
  latest : String → Option Answers
  defaults : Answers

namespace Installed

/-- The environment, and properties that say nothing. -/
def ofEnvironment (environment : Answers) : Installed where
  latest start :=
    if start = propertyPrefix then some fun _ => none
    else if start = environmentPrefix then some environment
    else none
  defaults := fun _ => none

def install (start : String) (answers : Answers) (i : Installed) : Installed :=
  { i with latest := Function.update i.latest start (some answers) }

def change (i : Installed) : Change Answers → Installed
  | .context start answers => i.install start answers
  | .defaults answers => { i with defaults := answers }
  | .overrides overrides =>
    i.install propertyPrefix (Answers.overlay overrides (i.latest propertyPrefix))

/-- What is installed after some changes. -/
def after (environment : Answers) (changes : List (Change Answers)) : Installed :=
  changes.foldl change (ofEnvironment environment)

end Installed

/-- `start` is the longest of the prefixes that the name starts with, and `rest` follows it. -/
structure Longest (prefixes : List String) (name start rest : String) : Prop where
  mem : start ∈ prefixes
  eq_append : name = start ++ rest
  le : ∀ start' ∈ prefixes, ∀ rest', name = start' ++ rest' →
    start'.utf8ByteSize ≤ start.utf8ByteSize

/-- The prefixes are those that have a context, the longest first. A name is looked up where its
longest prefix says, without that prefix, and then among the defaults. -/
structure Installed.Governs (i : Installed) (prefixes : List String) (lookup : Answers) : Prop where
  mem_iff : ∀ start, start ∈ prefixes ↔ (i.latest start).isSome = true
  nodup : prefixes.Nodup
  ordered : prefixes.Pairwise fun a b =>
    b.utf8ByteSize < a.utf8ByteSize ∨ a.utf8ByteSize = b.utf8ByteSize ∧ a < b
  matched : ∀ name start rest answers, Longest prefixes name start rest →
    i.latest start = some answers → lookup name = (answers rest).or (i.defaults name)
  unmatched : ∀ name, (∀ start ∈ prefixes, ∀ rest, name ≠ start ++ rest) →
    lookup name = i.defaults name

/-! ## The order of prefixes -/

namespace Resolver

variable {a b c : String}

theorem precedes_iff : precedes a b = true ↔
    b.utf8ByteSize < a.utf8ByteSize ∨ a.utf8ByteSize = b.utf8ByteSize ∧ a < b := by
  simp [precedes]

theorem ne_of_precedes (h : precedes a b = true) : a ≠ b := by
  rintro rfl
  obtain h | ⟨-, h⟩ := precedes_iff.1 h
  · exact Nat.lt_irrefl _ h
  · exact lt_irrefl a h

theorem precedes_trans (hab : precedes a b = true) (hbc : precedes b c = true) :
    precedes a c = true := by
  obtain hab | ⟨hsize, hab⟩ := precedes_iff.1 hab <;>
    obtain hbc | ⟨hsize', hbc⟩ := precedes_iff.1 hbc
  · exact precedes_iff.2 (.inl (by omega))
  · exact precedes_iff.2 (.inl (by omega))
  · exact precedes_iff.2 (.inl (by omega))
  · exact precedes_iff.2 (.inr ⟨by omega, hab.trans hbc⟩)

theorem precedes_of_not (h : precedes a b = false) (hne : a ≠ b) : precedes b a = true := by
  have hnot : ¬ (b.utf8ByteSize < a.utf8ByteSize ∨ a.utf8ByteSize = b.utf8ByteSize ∧ a < b) := by
    rw [← precedes_iff]
    simp [h]
  rw [precedes_iff]
  obtain hsize | hsize | hsize := Nat.lt_trichotomy a.utf8ByteSize b.utf8ByteSize
  · exact .inl hsize
  · obtain hlt | heq | hlt := lt_trichotomy a b
    · exact absurd (.inr ⟨hsize, hlt⟩) hnot
    · exact absurd heq hne
    · exact .inr ⟨hsize.symm, hlt⟩
  · exact absurd (.inl hsize) hnot

end Resolver

/-! ## Contexts under their prefixes -/

section Contexts

variable {α : Type} {l : List (String × α)} {entry : String × α} {start : String}

/-- Each prefix comes before the later ones. -/
def InOrder (l : List (String × α)) : Prop := l.Pairwise fun c d => precedes c.1 d.1 = true

theorem mem_place {c : String × α} : c ∈ place entry l ↔ c = entry ∨ c ∈ l := by
  induction l with
  | nil => simp [place]
  | cons other rest ih =>
    unfold place
    split
    · simp
    · simp only [List.mem_cons, ih]
      tauto

theorem InOrder.place (h : InOrder l) (hnew : ∀ c ∈ l, c.1 ≠ entry.1) :
    InOrder (place entry l) := by
  induction l with
  | nil => exact List.pairwise_singleton _ _
  | cons other rest ih =>
    obtain ⟨hother, hrest⟩ := List.pairwise_cons.1 h
    obtain ⟨hne, hnew⟩ := List.forall_mem_cons.1 hnew
    unfold Resolver.place
    split
    · rename_i hfirst
      refine List.pairwise_cons.2 ⟨fun c hc => ?_, h⟩
      rcases List.mem_cons.1 hc with rfl | hc
      · exact hfirst
      · exact Resolver.precedes_trans hfirst (hother c hc)
    · rename_i hlater
      refine List.pairwise_cons.2 ⟨fun c hc => ?_, ih hrest hnew⟩
      rcases mem_place.1 hc with rfl | hc
      · exact Resolver.precedes_of_not (by simpa using hlater) hne.symm
      · exact hother c hc

theorem lookup_cons_if (entry : String × α) (l : List (String × α)) (start : String) :
    (entry :: l).lookup start = if start = entry.1 then some entry.2 else l.lookup start := by
  rw [List.lookup_cons]
  by_cases h : start = entry.1
  · rw [if_pos h, beq_iff_eq.2 h]
  · rw [if_neg h, beq_false_of_ne h]

theorem lookup_place (hnew : ∀ c ∈ l, c.1 ≠ entry.1) (start : String) :
    (place entry l).lookup start = if start = entry.1 then some entry.2 else l.lookup start := by
  induction l with
  | nil => exact lookup_cons_if entry [] start
  | cons other rest ih =>
    obtain ⟨hne, hnew⟩ := List.forall_mem_cons.1 hnew
    unfold place
    split
    · exact lookup_cons_if ..
    · rw [lookup_cons_if, ih hnew, lookup_cons_if]
      by_cases h : start = other.1
      · rw [if_pos h, if_pos h, if_neg (h ▸ hne)]
      · rw [if_neg h, if_neg h]

theorem lookup_filter {other : String} (h : start ≠ other) :
    (l.filter (·.1 != other)).lookup start = l.lookup start := by
  induction l with
  | nil => rfl
  | cons c rest ih =>
    by_cases hc : c.1 = other
    · rw [List.filter_cons_of_neg (by simp [hc]), ih, lookup_cons_if, if_neg (hc ▸ h)]
    · rw [List.filter_cons_of_pos (by simp [hc]), lookup_cons_if, ih, lookup_cons_if]

theorem mem_map_fst_iff : start ∈ l.map (·.1) ↔ (l.lookup start).isSome = true := by
  rw [List.mem_map, List.lookup_isSome_iff]
  exact exists_congr fun c => and_congr_right fun _ => by rw [beq_iff_eq, eq_comm]

end Contexts

/-! ## What changes keep up -/

namespace Sources

variable {s : Sources} {i : Installed}

/-- The contexts stand in order, and they and the defaults are those that are installed. -/
structure Holds (s : Sources) (i : Installed) : Prop where
  inOrder : InOrder s.contexts
  lookup_eq : ∀ start, s.contexts.lookup start = i.latest start
  defaults_eq : s.defaults = i.defaults

theorem Holds.install (h : s.Holds i) (start : String) (answers : Answers) :
    (s.install start answers).Holds (i.install start answers) where
  inOrder := InOrder.place (h.inOrder.filter _) (by simp)
  lookup_eq start' := by
    rw [Sources.install, lookup_place (by simp)]
    show _ = Function.update i.latest start (some answers) start'
    rw [Function.update_apply]
    by_cases hstart : start' = start
    · rw [if_pos hstart, if_pos hstart]
    · rw [if_neg hstart, if_neg hstart, lookup_filter hstart, h.lookup_eq]
  defaults_eq := h.defaults_eq

theorem Holds.change (h : s.Holds i) (c : Change Answers) : (s.change c).Holds (i.change c) := by
  cases c with
  | context start answers => exact h.install start answers
  | defaults answers => exact ⟨h.inOrder, h.lookup_eq, rfl⟩
  | overrides overrides =>
    rw [Sources.change, override, h.lookup_eq]
    exact h.install _ _

theorem holds_ofEnvironment (environment : Answers) :
    (ofEnvironment environment).Holds (.ofEnvironment environment) := by
  have hnone : (⟨[], fun _ => none⟩ : Sources).Holds ⟨fun _ => none, fun _ => none⟩ :=
    ⟨List.Pairwise.nil, fun _ => rfl, rfl⟩
  have hboth := (hnone.install environmentPrefix environment).install propertyPrefix fun _ => none
  have hinstalled : Installed.ofEnvironment environment =
      ((⟨fun _ => none, fun _ => none⟩ : Installed).install environmentPrefix environment).install
        propertyPrefix fun _ => none := by
    unfold Installed.ofEnvironment Installed.install
    congr 1
    funext start
    simp only [Function.update_apply]
  rw [hinstalled]
  exact hboth

theorem holds_after (environment : Answers) (changes : List (Change Answers)) :
    (after environment changes).Holds (.after environment changes) := by
  suffices h : ∀ (s : Sources) (i : Installed), s.Holds i →
      (changes.foldl Sources.change s).Holds (changes.foldl Installed.change i) from
    h _ _ (holds_ofEnvironment environment)
  induction changes with
  | nil => exact fun s i h => h
  | cons c rest ih => exact fun s i h => ih _ _ (h.change c)

/-! ## What is looked up -/

/-- Two prefixes of one name that have the same size are the same. -/
theorem eq_of_append_eq {start start' rest rest' : String} (h : start ++ rest = start' ++ rest')
    (hsize : start.utf8ByteSize = start'.utf8ByteSize) : start = start' := by
  have hstart : ∀ {a b : String} {t : List Char}, b.toList = a.toList ++ t →
      a.utf8ByteSize = b.utf8ByteSize → a = b := by
    intro a b t ht hsize
    obtain rfl : b = a ++ String.ofList t := String.toList_inj.1 (by simp [ht])
    rw [String.utf8ByteSize_append, Nat.left_eq_add, String.utf8ByteSize_eq_zero_iff] at hsize
    rw [hsize, String.append_empty]
  have hchars := congrArg String.toList h
  rw [String.toList_append, String.toList_append] at hchars
  obtain ⟨t, ht, -⟩ | ⟨t, ht, -⟩ := List.append_eq_append_iff.1 hchars
  · exact hstart ht hsize
  · exact (hstart ht hsize.symm).symm

/-- In order, the first prefix that matches is the longest one. -/
theorem scoped?_of_longest {l : List (String × Answers)} (h : InOrder l)
    {name start rest : String} (hlongest : Longest (l.map (·.1)) name start rest) :
    scoped? name l = (l.lookup start).bind fun answers => answers rest := by
  induction l with
  | nil => cases hlongest.mem
  | cons c l ih =>
    obtain ⟨hfirst, hothers⟩ := List.pairwise_cons.1 h
    rw [scoped?, lookup_cons_if]
    by_cases hstart : start = c.1
    · have hkey : withoutPrefix? c.1 name = some rest :=
        withoutPrefix?_eq_some_iff.2 (hstart ▸ hlongest.eq_append)
      rw [hkey, if_pos hstart]
      rfl
    have hmem : start ∈ l.map (·.1) := (List.mem_cons.1 hlongest.mem).resolve_left hstart
    cases hkey : withoutPrefix? c.1 name with
    | none =>
      rw [if_neg hstart]
      exact ih hothers ⟨hmem, hlongest.eq_append,
        fun start' hstart' => hlongest.le start' (List.mem_cons_of_mem _ hstart')⟩
    | some key =>
      -- a prefix that matches earlier is as long, and then it is the same
      have hname := withoutPrefix?_eq_some_iff.1 hkey
      have hle := hlongest.le c.1 List.mem_cons_self key hname
      obtain ⟨d, hd, rfl⟩ := List.mem_map.1 hmem
      have hsize : c.1.utf8ByteSize = d.1.utf8ByteSize := by
        obtain hlt | ⟨heq, -⟩ := Resolver.precedes_iff.1 (hfirst d hd)
        · omega
        · exact heq
      exact absurd (eq_of_append_eq (hname.symm.trans hlongest.eq_append) hsize).symm hstart

theorem scoped?_of_unmatched {l : List (String × Answers)} {name : String}
    (h : ∀ start ∈ l.map (·.1), ∀ rest, name ≠ start ++ rest) : scoped? name l = none := by
  induction l with
  | nil => rfl
  | cons c l ih =>
    obtain ⟨hfirst, hothers⟩ := List.forall_mem_cons.1 h
    have hkey : withoutPrefix? c.1 name = none :=
      Option.eq_none_iff_forall_ne_some.2 fun rest hrest =>
        hfirst rest (withoutPrefix?_eq_some_iff.1 hrest)
    rw [scoped?, hkey]
    exact ih hothers

theorem Holds.governs (h : s.Holds i) : i.Governs s.prefixes s.lookup where
  mem_iff start := by rw [← h.lookup_eq]; exact mem_map_fst_iff
  nodup := List.Pairwise.map _ (fun c d => Resolver.ne_of_precedes) h.inOrder
  ordered := List.Pairwise.map _ (fun c d => Resolver.precedes_iff.1) h.inOrder
  matched name start rest answers hlongest hanswers := by
    unfold Sources.lookup
    rw [scoped?_of_longest h.inOrder hlongest, h.lookup_eq, hanswers, h.defaults_eq]
    rfl
  unmatched name hname := by
    unfold Sources.lookup
    rw [scoped?_of_unmatched hname, h.defaults_eq]
    rfl

end Sources

namespace Installed

theorem longest_or_unmatched (prefixes : List String) (name : String) :
    (∃ start rest, Longest prefixes name start rest) ∨
      ∀ start ∈ prefixes, ∀ rest, name ≠ start ++ rest := by
  classical
  by_cases h : ∃ start ∈ prefixes, ∃ rest, name = start ++ rest
  · left
    let matching := prefixes.toFinset.filter fun start => ∃ rest, name = start ++ rest
    have hmatching : ∀ start, start ∈ matching ↔ start ∈ prefixes ∧ ∃ rest, name = start ++ rest :=
      fun start => by rw [Finset.mem_filter, List.mem_toFinset]
    obtain ⟨some, hsome⟩ := h
    obtain ⟨start, hstart, hmax⟩ :=
      matching.exists_max_image String.utf8ByteSize ⟨some, (hmatching some).2 hsome⟩
    obtain ⟨hmem, rest, hrest⟩ := (hmatching start).1 hstart
    exact ⟨start, rest, hmem, hrest, fun start' hmem' rest' hname =>
      hmax start' ((hmatching start').2 ⟨hmem', rest', hname⟩)⟩
  · exact .inr fun start hmem rest hname => h ⟨start, hmem, rest, hname⟩

/-- What is installed determines the prefixes and their order, and all that is looked up. -/
theorem Governs.unique {i : Installed} {prefixes prefixes' : List String}
    {lookup lookup' : Answers} (h : i.Governs prefixes lookup)
    (h' : i.Governs prefixes' lookup') : prefixes = prefixes' ∧ lookup = lookup' := by
  have hprefixes : prefixes = prefixes' := by
    refine List.Perm.eq_of_pairwise ?_ h.ordered h'.ordered
      ((List.perm_ext_iff_of_nodup h.nodup h'.nodup).2 fun start => ?_)
    · rintro a b - - (hlt | ⟨heq, hab⟩) (hlt' | ⟨heq', hba⟩)
      · omega
      · omega
      · omega
      · exact absurd hba (lt_asymm hab)
    · rw [h.mem_iff, h'.mem_iff]
  subst hprefixes
  refine ⟨rfl, funext fun name => ?_⟩
  obtain ⟨start, rest, hlongest⟩ | hnone := longest_or_unmatched prefixes name
  · obtain ⟨answers, hanswers⟩ := Option.isSome_iff_exists.1 ((h.mem_iff start).1 hlongest.mem)
    rw [h.matched name start rest answers hlongest hanswers,
      h'.matched name start rest answers hlongest hanswers]
  · rw [h.unmatched name hnone, h'.unmatched name hnone]

/-- What is installed in a resolver, whose contexts are tables. -/
def ofTables (environment : Table String) (changes : List (Change Properties)) : Installed :=
  .after environment.answers (changes.map (.map Properties.get?))

end Installed

namespace Resolver

open Expansion (EndsWith)

theorem governs_after (environment : Table String) (changes : List (Change Properties)) :
    (Installed.ofTables environment changes).Governs (after environment changes).prefixes
      (after environment changes).lookup := by
  rw [← prefixes_sources, ← lookup_sources, sources_after]
  exact (Sources.holds_after _ _).governs

/-- **The longest prefix decides.** After any changes to a new resolver its prefixes are different,
and the longer come first, those of one size in their order. A name is looked up in the latest
context of the longest prefix that it starts with, and in no other context; then it is looked up
among the defaults. So two resolvers in which the same is installed have the same prefixes and
substitute alike. The same holds of contexts that are no tables. -/
theorem prefixes_decide (environment : Table String) (changes : List (Change Properties)) :
    (Installed.ofTables environment changes).Governs (after environment changes).prefixes
      (after environment changes).lookup ∧
    (∀ changes', Installed.ofTables environment changes' = Installed.ofTables environment changes →
      (after environment changes').prefixes = (after environment changes).prefixes ∧
      ∀ text, (after environment changes').substitute text =
        (after environment changes).substitute text) ∧
    ∀ (environment : Answers) (changes : List (Change Answers)),
      (Installed.after environment changes).Governs (Sources.after environment changes).prefixes
        (Sources.after environment changes).lookup ∧
      ∀ changes', Installed.after environment changes' = Installed.after environment changes →
        (Sources.after environment changes').prefixes =
          (Sources.after environment changes).prefixes ∧
        ∀ text outcome, EndsWith (Sources.after environment changes').lookup text outcome ↔
          EndsWith (Sources.after environment changes).lookup text outcome := by
  refine ⟨governs_after _ _, fun changes' hsame => ?_, fun environment changes =>
    ⟨(Sources.holds_after _ _).governs, fun changes' hsame => ?_⟩⟩
  · have hgoverns := governs_after environment changes'
    rw [hsame] at hgoverns
    obtain ⟨hprefixes, hlookup⟩ := hgoverns.unique (governs_after environment changes)
    exact ⟨hprefixes, substitute_eq_of_lookup hlookup⟩
  · have hgoverns := (Sources.holds_after environment changes').governs
    rw [hsame] at hgoverns
    obtain ⟨hprefixes, hlookup⟩ :=
      hgoverns.unique (Sources.holds_after environment changes).governs
    exact ⟨hprefixes, fun text outcome => by rw [hlookup]⟩

/-- Contexts under three prefixes of one name, the empty one among them. -/
def nestedSample : List (Change Properties) :=
  [.context "app." (.ofTable (.ofList [("db.host", "short"), ("db.name", "short")])),
    .context "" (.ofTable (.ofList [("app.db.name", "whole")])),
    .context "app.db." (.ofTable (.ofList [("host", "long")]))]

/-- The same contexts in another order, and one that is replaced. -/
def replacedSample : List (Change Properties) :=
  [.context "app.db." (.ofTable (.ofList [("name", "replaced")])),
    .context "app.db." (.ofTable (.ofList [("host", "long")])),
    .context "app." (.ofTable (.ofList [("db.host", "short"), ("db.name", "short")])),
    .context "" (.ofTable (.ofList [("app.db.name", "whole")]))]

/-- A name that its longest prefix does not know is not looked up under a shorter one. -/
theorem prefixes_decide_nested :
    Installed.ofTables ∅ replacedSample = Installed.ofTables ∅ nestedSample ∧
      (after ∅ replacedSample).prefixes = ["app.db.", "app.", "env.", "sys.", ""] ∧
      (after ∅ replacedSample).substitute "$\x7bapp.db.host\x7d $\x7bapp.db.name:-none\x7d" =
        .ok (some "long none") := by
  have hsame : Installed.ofTables ∅ replacedSample = Installed.ofTables ∅ nestedSample := by
    simp only [Installed.ofTables, Installed.after, replacedSample, nestedSample, List.map_cons,
      List.map_nil, List.foldl_cons, List.foldl_nil, Change.map, Installed.change,
      Installed.install]
    rw [Function.update_idem, Function.update_comm (by decide : "" ≠ "app.db."),
      Function.update_comm (by decide : "app." ≠ "app.db.")]
  obtain ⟨hprefixes, hsubstitute⟩ := (prefixes_decide ∅ nestedSample).2.1 _ hsame
  refine ⟨hsame, hprefixes.trans ?_, (hsubstitute _).trans ?_⟩
  · decide
  · exact @substitute_of_endsWith _ _ (.ok (some "long none".toList)) ⟨40, rfl⟩

end Resolver

end CommandLine
