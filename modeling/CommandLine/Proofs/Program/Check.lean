import CommandLine.Proofs.Chain.Stock
import CommandLine.Proofs.Program.Warnings
import Mathlib

/-!
# What a check finds

The check of a catalog walks over its declarations, and a run binds arguments to them and goes
through a chain. `check_exact` ties the two together: without warnings no run has a shortage, and no
run succeeds that needs something that there is a warning about.
-/

namespace CommandLine

open Parameter

/-! ## Runs without warnings -/

namespace Program.Stocked

variable {e : Engine}

theorem supplied_run (h : Stocked e) (hnone : Report.warnings e = []) (tokens : List String) :
    Supplied (e.run tokens).1 := by
  simp only [Report.warnings, List.append_eq_nil_iff, List.flatMap_eq_nil_iff] at hnone
  obtain ⟨hcommands, hglobals⟩ := hnone
  have hserved : ∀ {owner l}, Report.typeWarningsOfAll owner l = [] →
      (∀ entry ∈ typedOfAll l, entry.2.IsSingle) →
        ∀ entry ∈ typedOfAll l, e.converters.Serves entry.2 := by
    intro owner l hwarnings hsingle entry hentry
    rw [h.converters]
    exact Report.serves_stock (hsingle entry hentry)
      (Report.lateKey?_of_typeWarningsOfAll hwarnings hentry)
  cases hprepare : e.prepare none tokens with
  | error fault =>
    have hrun : (e.run tokens).1 = .error fault := by
      unfold Engine.run Engine.invoke
      rw [hprepare]
    rw [hrun]
    apply Supplied.error
    cases Engine.prepare_eq_error_iff.1 hprepare with
    | emptyCommand hname => rfl
    | unknownCommand hname hfault =>
      rw [Registry.fault_of_lookup hfault]
      rfl
    | overrides hcommand hfault =>
      obtain ⟨token, -, rfl⟩ := Assignment.fault_of_extractOverrides hfault
      rfl
    | globals hcommand hextract hfault =>
      exact Binder.supplied_bindGlobals (hserved hglobals h.single) _ _ hfault
    | arguments hcommand hglobals hfault =>
      have hmem := Engine.mem_commands_of_names hcommand
      exact Binder.supplied_bind (hserved (hcommands _ hmem).2 (h.ordinary _ hmem).parameters) _ _
        hfault
    | validation hbound hvalidator hviolations =>
      rw [h.validator] at hvalidator
      cases hvalidator
  | ok i =>
    have hmem := Engine.mem_commands_of_names (Engine.prepare_eq_ok_iff.1 hprepare).1.names
    obtain ⟨name, haction⟩ := (h.ordinary _ hmem).action
    have hchain := Chain.supplied_start (Action.result_ne_fault_of_stock? haction)
      (fun reference href => Report.contains_of_interceptorWarnings (hcommands _ hmem).1 href)
      i.arguments
    unfold Engine.run
    rw [Engine.invoke_of_prepare hprepare, h.interceptors]
    exact hchain.map _

/-! ## Runs that need what has to be supplied -/

theorem lacks (h : Stocked e) {type : ValueType} {key : String}
    (hkey : Report.lateKey? type = some key) : e.converters.Lacks type := by
  rw [h.converters]
  exact Report.lacks_stock hkey

/-- No run succeeds that needs something that has to be supplied. -/
theorem run_of_late (h : Stocked e) {late : Report.Late} (hlate : late.In e)
    {tokens : List String} (hneeded : late.NeededBy e tokens) (outcome : Outcome) :
    (e.run tokens).1 ≠ .ok outcome := by
  intro hok
  unfold Engine.run at hok
  obtain ⟨i, hprepare⟩ := Engine.exists_prepare_of_invoke hok
  have hbound := (Engine.prepare_eq_ok_iff.1 hprepare).1
  obtain ⟨overrides, ⟨rest, hextract, hglobals⟩, harguments⟩ := hbound.binds
  cases late with
  | interceptor c place reference =>
    obtain ⟨-, hplace, hmissing⟩ := hlate
    obtain ⟨hnames, hearlier⟩ := hneeded
    obtain rfl := hbound.names.unique hnames
    rw [Engine.invoke_of_prepare hprepare, h.interceptors] at hok
    obtain ⟨value, hvalue, -⟩ := Except.map_eq_ok_iff.1 hok
    exact Chain.start_of_late hplace hmissing hearlier i.arguments value hvalue
  | plain c place a type key =>
    obtain ⟨hc, hplain, hkey⟩ := hlate
    obtain ⟨hnames, hpositional⟩ := hneeded
    obtain rfl := hbound.names.unique hnames
    exact Binder.bind_of_lacks_plain (h.sound _ hc) hplain (h.lacks hkey) hpositional _ harguments
  | option c a type key =>
    obtain ⟨hc, hoption, hkey⟩ := hlate
    obtain ⟨hnames, htoken⟩ := hneeded
    obtain rfl := hbound.names.unique hnames
    exact Binder.bind_of_lacks (h.sound _ hc) hoption (h.lacks hkey) htoken _ harguments
  | global place group a type key =>
    obtain ⟨hgroup, hoption, hkey⟩ := hlate
    obtain ⟨overrides', rest', hextract', htoken, hearlier⟩ := hneeded
    obtain ⟨rfl, rfl⟩ : overrides' = overrides ∧ rest' = rest := by
      simpa [hextract] using hextract'.symm
    obtain ⟨hbean, hsound⟩ := h.soundGlobals group (List.mem_of_getElem? hgroup)
    exact Binder.bindGlobals_of_lacks hgroup (hsound.of_group hbean).1 hoption (h.lacks hkey)
      hearlier htoken _ hglobals

end Program.Stocked

namespace Program

/-- **Check.** The check of a catalog that can be used lists the warnings about its engine. If there
are none, no run fails for want of a converter or an interceptor. Otherwise each warning is about
something that has to be supplied, and no run succeeds that needs it: none with a token for a
parameter whose converter is missing, and none of a command that refers to a missing interceptor,
except for a dry run that comes before. -/
theorem check_exact {around : Surroundings} {s : Settings} {e : Engine}
    (he : engine around s = .ok e) :
    (∀ source, document around s (.check source) = .ok (.object
      [("commands", .integer e.registry.size), ("globals", .integer e.globals.length),
        ("warnings", .array ((Report.warnings e).map .text))])) ∧
      (Report.warnings e = [] → ∀ tokens fault, (e.run tokens).1 = .error fault →
        (∀ parameter key, fault ≠ .conversion (.noConverter parameter key)) ∧
          ∀ command reference, fault ≠ .unresolvedInterceptor command reference) ∧
      (∀ warning, warning ∈ Report.warnings e ↔
        ∃ late : Report.Late, late.In e ∧ late.warning = warning) ∧
      ∀ late : Report.Late, late.In e → ∀ tokens, late.NeededBy e tokens →
        ∀ outcome, (e.run tokens).1 ≠ .ok outcome := by
  have hstocked := stocked_of_engine he
  refine ⟨fun source => ?_, fun hnone tokens fault hfault => ?_,
    fun warning => Report.mem_warnings_iff hstocked,
    fun late hlate tokens hneeded => hstocked.run_of_late hlate hneeded⟩
  · rw [document, he]
    rfl
  · have hsupplied := hstocked.supplied_run hnone tokens fault hfault
    constructor
    · rintro parameter key rfl
      cases hsupplied
    · rintro command reference rfl
      cases hsupplied

/-- A catalog of one command. Its fields stand in lists, in the order of their declaration. -/
def reportText : String :=
  "[[],[],[[\"report\",null,\"echo\",null,null,[\"trace\",\"audit\"],[[\"option\",\"at\",\"time\"]]]]]"

/-- A command with an option of a type, and with an interceptor, that are not in stock. -/
def reportSample : Command where
  name := "report"
  parameters := [.option { name := "at" } ⟨.named "time", false⟩]
  target := ⟨"catalog", "echo", none⟩
  action := Action.echo
  interceptors := ["trace", "audit"]

def reportParts : Engine.Parts where
  commands := [reportSample]
  surroundings := { file? := fun _ => some (.text reportText) }

def reportEngine : Engine where
  registry := .push .empty reportSample
  globals := []
  converters := .stock
  resolver := reportParts.resolver
  validator? := none
  interceptors := .stock
  surroundings := reportParts.surroundings

theorem engine_reportText :
    engine reportParts.surroundings { catalogPath? := some "catalog" } = .ok reportEngine := by
  have hload : Catalog.load reportText "catalog" = .ok { commands := [reportSample] } := by cbv
  have hparts : Engine.ofParts reportParts = .ok reportEngine :=
    Engine.ofParts_eq_ok_iff.2 ⟨rfl, .push .empty reportSample, rfl, rfl⟩
  exact engine_eq_ok_iff.2 ⟨"catalog", reportText, _, rfl, rfl, hload, hparts⟩

/-- With the option a run fails, and without it a run fails as well. -/
theorem check_exact_report :
    engine reportParts.surroundings { catalogPath? := some "catalog" } = .ok reportEngine ∧
      Report.warnings reportEngine =
        ["command 'report' references interceptor 'audit', which must be supplied at run time",
          "'at' in 'report' has type 'time' with no stock converter"] ∧
      (∀ outcome, (reportEngine.run ["report", "--at=noon"]).1 ≠ .ok outcome) ∧
      ∀ outcome, (reportEngine.run ["report"]).1 ≠ .ok outcome := by
  have hcheck := check_exact engine_reportText
  have hoption : (Report.Late.option reportSample { name := "at" } ⟨.named "time", false⟩
      "time").In reportEngine :=
    ⟨by simp [reportEngine], by simp [reportSample, optionsOfAll, options], by decide⟩
  have hinterceptor : (Report.Late.interceptor reportSample 1 "audit").In reportEngine :=
    ⟨by simp [reportEngine], rfl, by decide⟩
  refine ⟨engine_reportText, by decide, fun outcome => ?_, fun outcome => ?_⟩
  · exact hcheck.2.2.2 _ hoption _ ⟨⟨"report", rfl, rfl⟩, by decide⟩ outcome
  · exact hcheck.2.2.2 _ hinterceptor _ ⟨⟨"report", rfl, rfl⟩, by decide⟩ outcome

end Program

end CommandLine
