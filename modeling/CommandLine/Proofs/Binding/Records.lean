import CommandLine.Proofs.Binding.Nested
import CommandLine.Proofs.Registry.Places
import CommandLine.Value.Written

/-!
# Groups as records

A group is bound to a bean with one field for each member. The registry tells options apart by their
names and lets a group among the members have the name of another member (`repeated_field`). So
the fields of a bean have names of their own if and only if no group among the members has the name
of another member; the first field of a name is the one that is found. `bind_records`: when this is
so of every group of a command, no bean in what is bound repeats a name, and neither does its
document.
-/

namespace CommandLine

/-! ## Values and documents that repeat no name -/

namespace Value

mutual

/-- No bean in the value has two fields of one name. -/
def Distinct : Value → Prop
  | bean _ fields => (fields.map (·.1)).Nodup ∧ DistinctFields fields
  | list items => DistinctItems items
  | _ => True

def DistinctItems : List Value → Prop
  | [] => True
  | v :: rest => Distinct v ∧ DistinctItems rest

def DistinctFields : List (String × Value) → Prop
  | [] => True
  | (_, v) :: rest => Distinct v ∧ DistinctFields rest

end

end Value

namespace Document

mutual

/-- No object in the document has two members of one name. -/
def Distinct : Document → Prop
  | object members => (members.map (·.1)).Nodup ∧ DistinctMembers members
  | array items => DistinctItems items
  | _ => True

def DistinctItems : List Document → Prop
  | [] => True
  | d :: rest => Distinct d ∧ DistinctItems rest

def DistinctMembers : List (String × Document) → Prop
  | [] => True
  | (_, d) :: rest => Distinct d ∧ DistinctMembers rest

end

end Document

namespace Value

@[simp] theorem map_fst_documentFields (fields : List (String × Value)) :
    (documentFields fields).map (·.1) = fields.map (·.1) := by
  induction fields with
  | nil => rfl
  | cons field rest ih =>
    rw [documentFields, List.map_cons, List.map_cons, ih]

mutual

theorem distinct_document (v : Value) : (document v).Distinct ↔ v.Distinct := by
  match v with
  | .bean type fields =>
    rw [document, Document.Distinct, Distinct, map_fst_documentFields,
      distinct_documentFields fields]
  | .list items =>
    rw [document, Document.Distinct, Distinct, distinct_documentItems items]
  | .null => simp [document, Document.Distinct, Distinct]
  | .bool b => simp [document, Document.Distinct, Distinct]
  | .int n => simp [document, Document.integer, Document.Distinct, Distinct]
  | .float x => simp [document, Document.Distinct, Distinct]
  | .text s => simp [document, Document.Distinct, Distinct]
  | .enum type constant => simp [document, Document.Distinct, Distinct]
  | .custom type shown => simp [document, Document.Distinct, Distinct]

theorem distinct_documentItems (items : List Value) :
    Document.DistinctItems (documentItems items) ↔ DistinctItems items := by
  match items with
  | [] => rw [documentItems, Document.DistinctItems, DistinctItems]
  | v :: rest =>
    rw [documentItems, Document.DistinctItems, DistinctItems, distinct_document v,
      distinct_documentItems rest]

theorem distinct_documentFields (fields : List (String × Value)) :
    Document.DistinctMembers (documentFields fields) ↔ DistinctFields fields := by
  match fields with
  | [] => rw [documentFields, Document.DistinctMembers, DistinctFields]
  | (name, v) :: rest =>
    rw [documentFields, Document.DistinctMembers, DistinctFields, distinct_document v,
      distinct_documentFields rest]

end

theorem distinctFields_iff {fields : List (String × Value)} :
    DistinctFields fields ↔ ∀ v ∈ fields.map (·.2), v.Distinct := by
  induction fields with
  | nil => simp [DistinctFields]
  | cons field rest ih => rw [DistinctFields, ih, List.map_cons, List.forall_mem_cons]

theorem field?_of_getElem? {type : String} {fields : List (String × Value)} {k : Nat}
    {name : String} {value : Value} (h : fields[k]? = some (name, value))
    (hfirst : name ∉ (fields.map (·.1)).take k) :
    (bean type fields).field? name = some value := by
  show fields.lookup name = some value
  induction fields generalizing k with
  | nil => simp at h
  | cons field rest ih =>
    obtain ⟨name', value'⟩ := field
    cases k with
    | zero =>
      obtain ⟨rfl, rfl⟩ : name' = name ∧ value' = value := by simpa using h
      rw [List.lookup_cons, beq_self_eq_true]
    | succ k =>
      rw [List.map_cons, List.take_succ_cons, List.mem_cons, not_or] at hfirst
      have hne : (name == name') = false := beq_false_of_ne hfirst.1
      rw [List.lookup_cons, hne]
      exact ih (by simpa using h) hfirst.2

end Value

/-! ## Names of members -/

namespace Parameter

/-- No group among the members has the name of another member. -/
def Apart (members : List Parameter) : Prop :=
  members.Pairwise fun m m' => m.isBean ∨ m'.isBean → m.name ≠ m'.name

theorem optionNames_of_member {m : Parameter} (h : Standing true m) (hbean : ¬ m.isBean) :
    m.optionNames = [m.name] := by
  have hflawless := h.flawless
  cases m with
  | plain a type => simp [firstFlaw?, flaw?] at hflawless
  | option a type => rfl
  | bean a type members => exact absurd rfl hbean
  | internal a => simp [firstFlaw?, flaw?] at hflawless

/-- The registry keeps options apart, so groups are all that can share a name with another
member. -/
theorem nodup_names_iff {members : List Parameter} (h : StandingAll true members) :
    (members.map (·.name)).Nodup ↔ Apart members := by
  induction members with
  | nil => exact ⟨fun _ => List.Pairwise.nil, fun _ => List.nodup_nil⟩
  | cons m rest ih =>
    obtain ⟨hm, hrest, hnew⟩ := standingAll_cons_iff.1 h
    unfold Apart at ih ⊢
    rw [List.map_cons, List.nodup_cons, List.pairwise_cons, ih hrest]
    refine and_congr_left fun _ => ⟨fun hname m' hm' _ hsame => ?_, fun hapart hmem => ?_⟩
    · exact hname (hsame ▸ List.mem_map_of_mem hm')
    · obtain ⟨m', hm', hsame⟩ := List.mem_map.1 hmem
      by_cases hbean : m.isBean ∨ m'.isBean
      · exact hapart m' hm' hbean hsame.symm
      · -- both are options, and the names of options differ
        rw [not_or] at hbean
        have hoption : m.name ∈ optionNamesOfAll rest := by
          rw [optionNamesOfAll_eq, List.mem_flatMap]
          refine ⟨m', hm', ?_⟩
          rw [optionNames_of_member (hrest.of_mem hm') hbean.2, ← hsame]
          exact List.mem_singleton.2 rfl
        refine hnew m.name hoption ?_
        rw [optionNames_of_member hm hbean.1]
        exact List.mem_singleton.2 rfl

end Parameter

/-! ## Where bound values come from -/

/-- The converters make no bean that repeats a name. -/
def Converters.MakeDistinct (c : Converters) : Prop :=
  ∀ key converter text value, c.find? key = some converter → converter text = .ok value →
    value.Distinct

theorem Converters.distinct_of_convert {c : Converters} (hc : c.MakeDistinct) {raw value : Value}
    (hraw : raw.Distinct) {type : ValueType} {label : String}
    (h : c.convert raw type label = .ok value) : value.Distinct := by
  cases convert_eq_ok_iff.1 h with
  | same => exact hraw
  | constant => trivial
  | made hkey hfind hmade => exact hc _ _ _ _ hfind hmade

theorem ValueType.distinct_of_zero? {type : ValueType} {value : Value}
    (h : type.zero? = some value) : value.Distinct := by
  unfold zero? at h
  split at h
  · cases h
  · split at h <;> cases h <;> trivial

namespace Binder

open Parameter

variable {b : Binder} {given : Partition}

/-- What binding draws on besides the declarations has no bean that repeats a name. -/
structure DrawsDistinct (b : Binder) : Prop where
  converters : b.converters.MakeDistinct
  internals : ∀ (name : String) (value : Value), b.internals[name]? = some value → value.Distinct

theorem distinct_of_convert (hb : b.DrawsDistinct) {raw value : Value} (hraw : raw.Distinct)
    {type : ValueType} {label : String} (h : b.convert raw type label = .ok value) :
    value.Distinct :=
  Converters.distinct_of_convert hb.converters hraw (Except.mapError_eq_ok_iff.1 h)

theorem distinct_of_defaultOr (hb : b.DrawsDistinct) {a : Attributes} {type : ValueType}
    {label : String} {otherwise : Except Fault Value} {value : Value}
    (hotherwise : otherwise = .ok value → value.Distinct)
    (h : b.defaultOr a type label otherwise = .ok value) : value.Distinct := by
  unfold defaultOr at h
  split at h
  · exact hotherwise h
  · split at h
    · cases h
    · exact hotherwise h
    · exact distinct_of_convert hb (by trivial) h

theorem distinct_of_plainRule (hb : b.DrawsDistinct) {a : Attributes} {type : ValueType}
    {index : Nat} {positional? : Option String} {value : Value}
    (h : b.plainRule a type index positional? = .ok value) : value.Distinct := by
  unfold plainRule at h
  dsimp only at h
  split at h
  · exact distinct_of_convert hb (by trivial) h
  · refine distinct_of_defaultOr hb (fun hmissing => ?_) h
    cases hmissing

theorem distinct_of_optionRule (hb : b.DrawsDistinct) {a : Attributes} {type : ValueType}
    {token? : Option OptionToken} {value : Value} (h : b.optionRule a type token? = .ok value) :
    value.Distinct := by
  unfold optionRule at h
  dsimp only at h
  split at h
  · exact distinct_of_convert hb (by trivial) h
  · split at h
    · exact distinct_of_convert hb (by trivial) h
    · cases h
  · refine distinct_of_defaultOr hb (fun hrest => ?_) h
    split at hrest
    · cases hrest
      trivial
    · split at hrest
      · rename_i zero hzero
        cases hrest
        exact ValueType.distinct_of_zero? hzero
      · cases hrest

theorem distinct_of_internal (hb : b.DrawsDistinct) (name : String) :
    ((b.internals[name]?).getD .null).Distinct := by
  cases hvalue : b.internals[name]? with
  | none => trivial
  | some value => exact hb.internals name value hvalue

/-- In every group at one of the places, no group has the name of another member. -/
def AllApart (places : List (Bool × Parameter)) : Prop :=
  ∀ isMember a type members, (isMember, Parameter.bean a type members) ∈ places → Apart members

mutual

theorem distinct_of_rule (hb : b.DrawsDistinct) {isMember : Bool} {p : Parameter}
    (hp : Standing isMember p) (hapart : AllApart (places isMember p)) {index place : Nat}
    {value : Value} (h : b.rule given index place p = .ok value) : value.Distinct := by
  match p with
  | .plain a type =>
    rw [rule] at h
    exact distinct_of_plainRule hb h
  | .option a type =>
    rw [rule] at h
    exact distinct_of_optionRule hb h
  | .internal a =>
    rw [rule] at h
    exact Except.ok.inj h ▸ distinct_of_internal hb a.name
  | .bean a type members =>
    obtain ⟨rfl, -⟩ | ⟨values, hvalues, rfl⟩ := cases_of_rule_bean h
    · trivial
    · have hall := distinct_of_rules hb hp.members
        (fun m a' type' members' hmem => hapart m a' type' members' (List.mem_cons_of_mem _ hmem))
        hvalues
      have hlength : (members.map (·.name)).length = values.length := by
        rw [List.length_map, length_of_rules hvalues]
      rw [Value.Distinct, Value.distinctFields_iff, List.map_fst_zip (Nat.le_of_eq hlength),
        List.map_snd_zip (Nat.le_of_eq hlength.symm), nodup_names_iff hp.members]
      exact ⟨hapart isMember a type members List.mem_cons_self, hall⟩

/-- If groups are apart, the rules give no bean that repeats a name. -/
theorem distinct_of_rules (hb : b.DrawsDistinct) {isMember : Bool} {l : List Parameter}
    (hl : StandingAll isMember l) (hapart : AllApart (placesOfAll isMember l)) {index place : Nat}
    {values : List Value} (h : b.rules given index place l = .ok values) :
    ∀ value ∈ values, value.Distinct := by
  match l with
  | [] =>
    rw [rules] at h
    cases h
    exact fun _ hmem => nomatch hmem
  | p :: rest =>
    obtain ⟨hp, hrest, -⟩ := standingAll_cons_iff.1 hl
    obtain ⟨value, others, hvalue, hothers, rfl⟩ := rules_cons_eq_ok_iff.1 h
    rw [List.forall_mem_cons]
    constructor
    · exact distinct_of_rule hb hp
        (fun m a type members hmem => hapart m a type members (List.mem_append_left _ hmem)) hvalue
    · exact distinct_of_rules hb hrest
        (fun m a type members hmem => hapart m a type members (List.mem_append_right _ hmem))
        hothers

end

/-! ## The fields of a group -/

mutual

/-- What a member gets does not depend on where it stands. -/
theorem rule_of_member {m : Parameter} (h : firstFlaw? true m = none)
    (index place index' place' : Nat) :
    b.rule given index place m = b.rule given index' place' m := by
  match m with
  | .plain a type => simp [firstFlaw?, flaw?] at h
  | .option a type => rw [rule, rule]
  | .internal a => rw [rule, rule]
  | .bean a type members =>
    rw [rule, rule, rules_of_members (firstFlawOfAll?_members h) 0 place 0 place']

theorem rules_of_members {l : List Parameter} (h : firstFlawOfAll? true l = none)
    (index place index' place' : Nat) :
    b.rules given index place l = b.rules given index' place' l := by
  match l with
  | [] => rw [rules, rules]
  | m :: rest =>
    obtain ⟨hm, hrest⟩ := firstFlawOfAll?_cons_eq_none.1 h
    rw [rules, rules, rule_of_member hm index place index' place']
    congr 1
    funext value
    rw [rules_of_members hrest _ _ (index' + 1) (place' + if m.isPlain then 1 else 0)]

end

/-- The fields are the members with the values that are bound to them, in the order of
declaration. -/
structure Records (b : Binder) (given : Partition) (members : List Parameter)
    (fields : List (String × Value)) : Prop where
  names_eq : fields.map (·.1) = members.map (·.name)
  rule_eq : ∀ (k : Nat) (m : Parameter), members[k]? = some m →
    ∃ value, fields[k]? = some (m.name, value) ∧ b.rule given 0 0 m = .ok value

theorem records_of_rule {isMember : Bool} {index place : Nat} {a : Attributes}
    {type type' : String} {members : List Parameter} {fields : List (String × Value)}
    (hp : Standing isMember (.bean a type members))
    (h : b.rule given index place (.bean a type members) = .ok (.bean type' fields)) :
    Records b given members fields := by
  obtain ⟨-, hnames, hrules⟩ := fields_of_rule_bean h
  obtain ⟨hlength, hvalues⟩ := rules_eq_ok_iff.1 hrules
  refine ⟨hnames, fun k m hm => ?_⟩
  obtain ⟨hk, -⟩ := List.getElem?_eq_some_iff.1 hm
  have hfield : k < fields.length := by
    rw [List.length_map] at hlength
    omega
  have hname : fields[k].1 = m.name := by
    have hsame := congrArg (·[k]?) hnames
    simpa [hm, List.getElem?_eq_getElem hfield] using hsame
  have hvalue := hvalues k m fields[k].2 hm (by simp [List.getElem?_eq_getElem hfield])
  unfold ruleAt at hvalue
  have hstanding := hp.members.of_mem (List.mem_of_getElem? hm)
  rw [rule_of_member hstanding.flawless _ _ 0 0] at hvalue
  exact ⟨fields[k].2, by rw [List.getElem?_eq_getElem hfield, ← hname], hvalue⟩

/-- A member is found under its name, unless an earlier member has the name too. -/
theorem Records.field?_eq {members : List Parameter} {fields : List (String × Value)}
    (h : Records b given members fields) (type : String) {k : Nat} {m : Parameter}
    (hm : members[k]? = some m) (hfirst : ∀ m' ∈ members.take k, m'.name ≠ m.name) :
    ∃ value, (Value.bean type fields).field? m.name = some value ∧
      b.rule given 0 0 m = .ok value := by
  obtain ⟨value, hfield, hvalue⟩ := h.rule_eq k m hm
  refine ⟨value, Value.field?_of_getElem? hfield fun hmem => ?_, hvalue⟩
  rw [h.names_eq, ← List.map_take] at hmem
  obtain ⟨m', hm', hsame⟩ := List.mem_map.1 hmem
  exact hfirst m' hm' hsame

/-- **Records.** Wherever a group is bound to a bean, the fields are the members with their values;
each member is found under its name unless an earlier one has the name too; and the names of the
fields are distinct if and only if no group among the members has the name of another member. If
this is so of every group of the command, then no bean and no object in what is bound repeats a
name, except for what converters and internal parameters bring in. -/
theorem bind_records {commands : List Command} {registry : Registry}
    (hregistry : Registry.ofCommands commands = .ok registry) {command : Command}
    (hcommand : command ∈ registry.commands) {b : Binder} {arguments : List String}
    {values : List Value} (h : b.bind command.parameters arguments = .ok values) :
    (∀ a type members type' fields,
      BoundTo (.bean a type members) (.bean type' fields) command.parameters values →
        Records b (.ofArguments arguments) members fields ∧
        ((fields.map (·.1)).Nodup ↔ Apart members) ∧
        ∀ (k : Nat) (m : Parameter), members[k]? = some m →
          (∀ m' ∈ members.take k, m'.name ≠ m.name) →
            ∃ value, (Value.bean type' fields).field? m.name = some value ∧
              b.rule (.ofArguments arguments) 0 0 m = .ok value) ∧
    (AllApart (placesOfAll false command.parameters) → b.DrawsDistinct →
      ∀ value ∈ values, value.Distinct ∧ value.document.Distinct) := by
  have hsound := Registry.sound_of_ofCommands hregistry hcommand
  have hrules := gives_iff.1 ((bind_eq_ok_iff hsound).1 h).1
  constructor
  · intro a type members type' fields hbound
    obtain ⟨isMember, index, place, hp, hrule⟩ :=
      rule_of_boundTo hbound (.of_sound hsound) hrules
    have hrecords := records_of_rule hp hrule
    refine ⟨hrecords, ?_, fun k m hm hfirst => hrecords.field?_eq type' hm hfirst⟩
    rw [hrecords.names_eq]
    exact nodup_names_iff hp.members
  · intro hapart hb value hvalue
    have hall := distinct_of_rules hb (.of_sound hsound) hapart hrules
    exact ⟨hall value hvalue, (Value.distinct_document value).2 (hall value hvalue)⟩

/-- The group and the group inside of it are records. -/
theorem bind_records_deploy :
    Registry.ofCommands [deploySample] = .ok (.push .empty deploySample) ∧
      deploySample ∈ [deploySample] ∧
      Binder.bind ⟨∅, ⟨[], ∅⟩, ∅⟩ deploySample.parameters ["--level=1", "web", "--user=ada"] =
        .ok [.text "web", .text "1",
          .bean "Proxy" [("host", .null), ("login", .bean "Login" [("user", .text "ada")])]] ∧
      AllApart (placesOfAll false deploySample.parameters) ∧
      DrawsDistinct ⟨∅, ⟨[], ∅⟩, ∅⟩ ∧
      (∃ value, (Value.bean "Proxy" [("host", .null),
          ("login", .bean "Login" [("user", .text "ada")])]).field? "login" = some value ∧
        Binder.rule ⟨∅, ⟨[], ∅⟩, ∅⟩ (.ofArguments ["--level=1", "web", "--user=ada"]) 0 0
          (.bean { name := "login" } "Login" [.option { name := "user" } ⟨.text, false⟩]) =
            .ok value) ∧
      (Value.bean "Proxy" [("host", .null),
        ("login", .bean "Login" [("user", .text "ada")])]).Distinct := by
  have hregistry : Registry.ofCommands [deploySample] = .ok (.push .empty deploySample) := rfl
  have hcommand : deploySample ∈ [deploySample] := List.mem_singleton.2 rfl
  have hbind : Binder.bind ⟨∅, ⟨[], ∅⟩, ∅⟩ deploySample.parameters
      ["--level=1", "web", "--user=ada"] = .ok [.text "web", .text "1",
        .bean "Proxy" [("host", .null), ("login", .bean "Login" [("user", .text "ada")])]] := rfl
  have hapart : AllApart (placesOfAll false deploySample.parameters) := by
    intro isMember a type members hmem
    simp only [deploySample, placesOfAll, places, List.append_nil, List.cons_append,
      List.nil_append, List.mem_cons, List.not_mem_nil, or_false, Prod.mk.injEq, reduceCtorEq,
      and_false, false_or, Parameter.bean.injEq] at hmem
    obtain ⟨-, -, -, rfl⟩ | ⟨-, -, -, rfl⟩ := hmem
    · simp [Apart, isBean, Parameter.name, attributes]
    · simp [Apart]
  have hdraws : DrawsDistinct ⟨∅, ⟨[], ∅⟩, ∅⟩ := by
    refine ⟨fun key converter text value hfind => ?_, fun name value hvalue => ?_⟩
    · cases hfind
    · simp at hvalue
  obtain ⟨hrecords, hdistinct⟩ := bind_records hregistry hcommand hbind
  obtain ⟨-, -, hfound⟩ := hrecords _ _ _ _ _ (.tail (.tail .head))
  exact ⟨hregistry, hcommand, hbind, hapart, hdraws, hfound 1 _ rfl (by decide),
    (hdistinct hapart hdraws _ (by simp)).1⟩

/-- A command with a group in which a group has the name of an option. -/
def shareSample : Command where
  name := "share"
  parameters :=
    [.bean { name := "job" } "Job"
      [.option { name := "x" } ⟨.text, false⟩,
        .bean { name := "x" } "Inner" [.option { name := "y" } ⟨.text, false⟩]]]
  target := ⟨"Sample", "share", none⟩
  action := fun _ => { result := .ok .null }

/-- A command with an option whose values a converter makes. -/
def pairSample : Command where
  name := "pair"
  parameters := [.option { name := "of" } ⟨.named "twin", false⟩]
  target := ⟨"Sample", "pair", none⟩
  action := fun _ => { result := .ok .null }

/-- The registry accepts the commands. The bean of the first has two fields of one name, of which
only the first is found, and its document repeats the name. A converter may make such a bean too. -/
theorem repeated_field :
    Registry.ofCommands [shareSample, pairSample] =
        .ok (.push (.push .empty shareSample) pairSample) ∧
      Binder.bind ⟨∅, ⟨[], ∅⟩, ∅⟩ shareSample.parameters ["--x=1", "--y=2"] =
        .ok [.bean "Job" [("x", .text "1"), ("x", .bean "Inner" [("y", .text "2")])]] ∧
      ¬ (Value.bean "Job" [("x", .text "1"), ("x", .bean "Inner" [("y", .text "2")])]).Distinct ∧
      Value.field? "x" (.bean "Job" [("x", .text "1"), ("x", .bean "Inner" [("y", .text "2")])]) =
        some (.text "1") ∧
      (Value.bean "Job" [("x", .text "1"), ("x", .bean "Inner" [("y", .text "2")])]).document =
        .object [("x", .text "1"), ("x", .object [("y", .text "2")])] ∧
      Binder.bind ⟨(∅ : Converters).register "twin" fun _ =>
          .ok (.bean "Twin" [("a", .null), ("a", .null)]), ⟨[], ∅⟩, ∅⟩ pairSample.parameters
          ["--of=1"] = .ok [.bean "Twin" [("a", .null), ("a", .null)]] ∧
      ¬ (Value.bean "Twin" [("a", .null), ("a", .null)]).Distinct := by
  refine ⟨rfl, rfl, ?_, rfl, rfl, rfl, ?_⟩
  · rw [Value.Distinct]
    simp
  · rw [Value.Distinct]
    simp

end Binder

end CommandLine
