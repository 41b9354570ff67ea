import Siblings.Catalog.Builtin
import Siblings.Proofs.Failure
import Siblings.Proofs.Report

/-!
# Missing tokens

Which tokens a master must hold depends on the default type and on the settings, not on the
target. So a token that is missing is missing for every target alike (`lacking?`). The rules for a
target depend on the target in what they put in, and on its kind in what they look for; for the
built-in catalogs they look for distinct tokens (`builtin_matchers`), so nothing but a missing
token can go wrong there.

* `missing?_derivation`: the first token that is missing is the same for every target.
* `outcome_eq_missingToken_iff`: when a target fails for want of a token.
* `builtin_compatible`: the rules of the built-in catalogs can be applied together.
* `missing_tokens`: **a missing token fails every target, and only that fails a built-in one.**
-/

namespace Siblings

namespace Derivation

variable {d : Derivation} {error : GenError}

/-- What the master lacks first: a token, and what it stands for. -/
def lacking? (d : Derivation) : Option (TokenKind × Text) :=
  if !Text.includes d.defaultClass d.master then some (.className, d.defaultClass)
  else
    (d.options.required.toList.find? fun field => !d.holdsToken field).map fun field =>
      (.field field, d.default.get field)

/-- **The error for a missing token** adds the class that cannot be derived. -/
theorem missing?_eq_lacking? :
    d.missing? = d.lacking?.map fun (kind, token) => .missingToken d.targetClass kind token := by
  unfold missing? lacking?
  split
  · rfl
  · rw [Option.map_map]
    rfl

/-- Rules that cannot be applied together are no missing token. -/
theorem substituted_ne_missingToken (className : Text) (kind : TokenKind) (token : Text) :
    d.substituted ≠ .error (.missingToken className kind token) := by
  intro h
  obtain ⟨front, rules, back, -, -, hrules⟩ := substituted_eq_error_iff.1 h
  obtain ⟨before, rule, after, -, -, hobjection⟩ := RuleSet.ofList_eq_error_iff.1 hrules
  cases hobjection

end Derivation

namespace Request

variable {request : Request} {entry : Entry} {kind : TokenKind} {className token : Text}

/-! ## Every target alike -/

/-- What the master of a request lacks first, whatever the target. -/
def lacking? (request : Request) : Option (TokenKind × Text) :=
  (request.derivation request.table.default).lacking?

/-- **The master holds every token that the request needs,** whatever the target: the class of the
default type and the required tokens, on marked lines if only these count. -/
def Complete (request : Request) : Prop := (request.derivation request.table.default).Complete

/-- **The first token that is missing** is the same for every target. -/
theorem missing?_derivation (request : Request) (entry : Entry) :
    (request.derivation entry).missing? =
      request.lacking?.map fun (kind, token) =>
        .missingToken (request.targetClass entry) kind token :=
  Derivation.missing?_eq_lacking?

theorem lacking?_eq_none_iff : request.lacking? = none ↔ request.Complete := by
  have hmissing := missing?_derivation request request.table.default
  rw [Complete, ← Derivation.complete_iff, hmissing, Option.map_eq_none_iff]

/-- **When a target fails for want of a token:** its class is not that of the master, and the
master lacks the token first. -/
theorem outcome_eq_missingToken_iff :
    request.outcome entry = .error (.missingToken className kind token) ↔
      request.targetClass entry ≠ request.defaultClass ∧
        className = request.targetClass entry ∧ request.lacking? = some (kind, token) := by
  have hrun : (request.derivation entry).run = .error (.missingToken className kind token) ↔
      className = request.targetClass entry ∧ request.lacking? = some (kind, token) := by
    rw [Derivation.run_eq_error_iff, missing?_derivation]
    have hrules := (request.derivation entry).substituted_ne_missingToken className kind token
    simp only [hrules, and_false, or_false, Option.map_eq_some_iff, Prod.exists,
      GenError.missingToken.injEq]
    constructor
    · rintro ⟨kind, token, hlacking, rfl, rfl, rfl⟩
      exact ⟨rfl, hlacking⟩
    · rintro ⟨rfl, hlacking⟩
      exact ⟨kind, token, hlacking, rfl, rfl, rfl⟩
  rw [outcome_eq_error_iff, hrun]
  simp

/-! ## The built-in catalogs -/

/-- The request for the classes of a catalog, with its own specialization. -/
def forCatalog (request : Request) (catalog : Catalog) : Request :=
  { request with table := catalog.table, tables := catalog.tables }

end Request

namespace Catalog

/-- The matchers of the rules for the types of a kind: the default class, the idioms, the tokens
of the default type. -/
def matchers (catalog : Catalog) (mode : Mode) (kind : ElementKind) : List Text :=
  let default := catalog.table.default
  mode.classIdentifier default.className ::
    (catalog.tables.active (Flags.ofKind kind)).flatMap
      (fun table => table.idioms.map fun idiom => Idiom.fill idiom.matcher default.descriptor) ++
    Field.all.map default.descriptor.get

/-- **The rules for a target** look for what its kind calls for. The target itself does not
matter. -/
theorem map_matcher_rulesOf (catalog : Catalog) (request : Request) (entry : Entry) :
    (((request.forCatalog catalog).derivation entry).rulesOf Field.all).map Rule.matcher =
      catalog.matchers request.mode entry.kind := by
  unfold Derivation.rulesOf Derivation.idiomRules matchers
  rw [List.map_append, List.map_cons, List.map_flatMap, List.map_map]
  simp only [List.map_map]
  rfl

/-- **The built-in catalogs look for distinct tokens,** and for no empty one. -/
theorem builtin_matchers (mode : Mode) (kind : ElementKind) :
    ∀ catalog ∈ Builtin.all,
      [] ∉ catalog.matchers mode kind ∧ (catalog.matchers mode kind).Nodup := by
  cases mode <;> cases kind <;> decide +kernel

/-- **The rules of a built-in catalog** can be applied together, for its targets and for any other
type. -/
theorem builtin_compatible {catalog : Catalog} (h : catalog ∈ Builtin.all) (request : Request)
    (entry : Entry) :
    RuleSet.Compatible
      (((request.forCatalog catalog).derivation entry).rulesOf Field.all) := by
  obtain ⟨hnil, hnodup⟩ := builtin_matchers request.mode entry.kind catalog h
  rw [← map_matcher_rulesOf] at hnil hnodup
  exact RuleSet.compatible_of_nodup hnil hnodup

/-- No target of a built-in catalog has the class of the master. -/
theorem builtin_classIdentifier_ne (mode : Mode) :
    ∀ catalog ∈ Builtin.all, ∀ entry ∈ catalog.table.targets,
      mode.classIdentifier entry.className ≠
        mode.classIdentifier catalog.table.default.className := by
  cases mode <;> decide +kernel

theorem builtin_exists_target :
    ∀ catalog ∈ Builtin.all, ∃ entry, entry ∈ catalog.table.targets := by
  intro catalog hcatalog
  have hfilled : ∀ catalog ∈ Builtin.all, catalog.table.targets ≠ [] := by decide
  exact List.exists_mem_of_ne_nil _ (hfilled catalog hcatalog)

end Catalog

namespace Request

/-- **A target of a built-in catalog fails for want of a token only.** -/
theorem outcome_builtin_eq_error_iff {catalog : Catalog} (h : catalog ∈ Catalog.Builtin.all)
    (request : Request) {entry : Entry} (hentry : entry ∈ catalog.table.targets)
    {error : GenError} :
    (request.forCatalog catalog).outcome entry = .error error ↔
      ∃ kind token, (request.forCatalog catalog).lacking? = some (kind, token) ∧
        error = .missingToken ((request.forCatalog catalog).targetClass entry) kind token := by
  have hclass : (request.forCatalog catalog).targetClass entry ≠
      (request.forCatalog catalog).defaultClass :=
    Catalog.builtin_classIdentifier_ne request.mode catalog h entry hentry
  have hrules := Catalog.builtin_compatible h request entry
  rw [outcome_eq_error_iff, Derivation.run_eq_error_iff_of_compatible hrules,
    missing?_derivation]
  simp only [hclass, false_and, false_or, ne_eq, not_false_eq_true, true_and,
    Option.map_eq_some_iff, Prod.exists]
  simp only [eq_comm]

/-- **A target of a built-in catalog succeeds** exactly if the master holds every token. -/
theorem exists_outcome_builtin_iff {catalog : Catalog} (h : catalog ∈ Catalog.Builtin.all)
    (request : Request) {entry : Entry} (hentry : entry ∈ catalog.table.targets) :
    (∃ file, (request.forCatalog catalog).outcome entry = .ok file) ↔
      (request.forCatalog catalog).Complete := by
  rw [← lacking?_eq_none_iff]
  cases houtcome : (request.forCatalog catalog).outcome entry with
  | ok file =>
    -- a token that is missing would be the error
    cases hlacking : (request.forCatalog catalog).lacking? with
    | none => simp
    | some pair =>
      have herror := (outcome_builtin_eq_error_iff h request hentry).2 ⟨_, _, hlacking, rfl⟩
      rw [houtcome] at herror
      simp at herror
  | error error =>
    obtain ⟨kind, token, hlacking, -⟩ :=
      (outcome_builtin_eq_error_iff h request hentry).1 houtcome
    simp [hlacking]

/-- **A missing token fails every target.** A request that keeps going has a report. If the master
holds every token that is needed, no target fails for want of a token; else there is one token for
want of which every target fails whose class is not that of the master. **Nothing else fails a
target of a built-in catalog,** whatever the master, the mode and the settings: each succeeds
exactly if the master holds every token that is needed. -/
theorem missing_tokens :
    (∀ request : Request, ∃ report, (request.under .keepGoing).generate = .ok report ∧
      (request.Complete ∧ (∀ failure ∈ report.failures, ∀ className kind token,
          failure.error ≠ .missingToken className kind token) ∨
        ¬ request.Complete ∧ ∃ kind token, ∀ entry ∈ request.table.targets,
          request.targetClass entry ≠ request.defaultClass →
            ⟨entry.className, .missingToken (request.targetClass entry) kind token⟩ ∈
              report.failures)) ∧
    ∀ catalog ∈ Catalog.Builtin.all, ∀ request : Request,
      ∃ report, ((request.forCatalog catalog).under .keepGoing).generate = .ok report ∧
        (report.isComplete = true ↔ (request.forCatalog catalog).Complete) ∧
        (∀ entry ∈ catalog.table.targets,
          (∃ file ∈ report.files, (request.forCatalog catalog).outcome entry = .ok file) ↔
            (request.forCatalog catalog).Complete) ∧
        ∀ failure ∈ report.failures, ∃ className kind token,
          failure.error = .missingToken className kind token := by
  constructor
  · intro request
    obtain ⟨report, hreport⟩ := exists_generate_keepGoing request
    have hdealt := generate_keepGoing_iff.1 hreport
    refine ⟨report, hreport, ?_⟩
    rw [← lacking?_eq_none_iff]
    cases hlacking : request.lacking? with
    | none =>
      refine .inl ⟨rfl, fun failure hfailure className kind token heq => ?_⟩
      obtain ⟨entry, -, houtcome, -⟩ := hdealt.mem_failures.1 hfailure
      rw [heq, outcome_eq_missingToken_iff, hlacking] at houtcome
      simp at houtcome
    | some pair =>
      obtain ⟨kind, token⟩ := pair
      refine .inr ⟨by simp, kind, token, fun entry hentry hclass => ?_⟩
      exact hdealt.mem_failures.2
        ⟨entry, hentry, outcome_eq_missingToken_iff.2 ⟨hclass, rfl, hlacking⟩, rfl⟩
  · intro catalog hcatalog request
    obtain ⟨report, hreport⟩ := exists_generate_keepGoing (request.forCatalog catalog)
    have hdealt := generate_keepGoing_iff.1 hreport
    have hsucceeds := fun entry (hentry : entry ∈ catalog.table.targets) =>
      exists_outcome_builtin_iff hcatalog request hentry
    refine ⟨report, hreport, ?_, fun entry hentry => ?_, fun failure hfailure => ?_⟩
    · rw [Report.isComplete, List.isEmpty_iff, hdealt.failures_eq_nil_iff]
      constructor
      · intro hall
        -- a catalog has a target
        obtain ⟨entry, hentry⟩ := Catalog.builtin_exists_target catalog hcatalog
        exact (hsucceeds entry hentry).1 (hall entry hentry)
      · intro hcomplete entry hentry
        exact (hsucceeds entry hentry).2 hcomplete
    · rw [hdealt.exists_mem_files_iff hentry]
      exact hsucceeds entry hentry
    · obtain ⟨entry, hentry, houtcome, -⟩ := hdealt.mem_failures.1 hfailure
      obtain ⟨kind, token, -, herror⟩ :=
        (outcome_builtin_eq_error_iff hcatalog request hentry).1 houtcome
      exact ⟨_, kind, token, herror⟩

/-- A request for interfaces, where the class and the format are required on marked lines; the
line with the format ends with a comment. -/
def formatRequest (comment : Text) : Request where
  master :=
    "interface DoubleDataset \x7b //CLASS_TYPE\n\tString f = '%.8g'; ".toList ++ comment ++
      "\n\x7d\n".toList
  table := Catalog.Builtin.complex.table
  mode := .interface
  options := ⟨.marked, .ofList [.boxedName, .formatSpec], none⟩
  stripBaseClass := true
  policy := .keepGoing
  tables := .standard

/-- That request for the classes of a built-in catalog. -/
def scalarRequest (comment : Text) : Request :=
  (formatRequest comment).forCatalog Catalog.Builtin.scalar

theorem missing_tokens_scalar :
    Catalog.Builtin.scalar ∈ Catalog.Builtin.all ∧
      (scalarRequest "//FORMAT_STRING".toList).Complete ∧ ¬ (scalarRequest []).Complete ∧
      (∃ report, ((scalarRequest "//FORMAT_STRING".toList).under .keepGoing).generate =
        .ok report ∧ report.isComplete = true) ∧
      ∃ report kind token, ((scalarRequest []).under .keepGoing).generate = .ok report ∧
        report.isComplete = false ∧
        ∀ entry ∈ (scalarRequest []).table.targets,
          ⟨entry.className, .missingToken ((scalarRequest []).targetClass entry) kind token⟩ ∈
            report.failures := by
  have hscalar : Catalog.Builtin.scalar ∈ Catalog.Builtin.all := List.mem_cons_self
  have hmarked : (scalarRequest "//FORMAT_STRING".toList).Complete :=
    lacking?_eq_none_iff.1 (by decide +kernel)
  have hbare : ¬ (scalarRequest []).Complete := by
    rw [← lacking?_eq_none_iff]
    decide +kernel
  obtain ⟨full, hfull, hcomplete, -⟩ :=
    missing_tokens.2 Catalog.Builtin.scalar hscalar (formatRequest "//FORMAT_STRING".toList)
  obtain ⟨report, hreport, hincomplete, -⟩ :=
    missing_tokens.2 Catalog.Builtin.scalar hscalar (formatRequest [])
  rw [← scalarRequest] at hfull hcomplete hreport hincomplete
  obtain ⟨other, hother, hall⟩ := missing_tokens.1 (scalarRequest [])
  rw [hreport, Except.ok.injEq] at hother
  subst hother
  obtain ⟨-, kind, token, hfails⟩ := hall.resolve_left fun h => hbare h.1
  have hlacks : report.isComplete = false := by
    rw [← Bool.not_eq_true, hincomplete]
    exact hbare
  refine ⟨hscalar, hmarked, hbare, ⟨full, hfull, hcomplete.2 hmarked⟩, report, kind, token,
    hreport, hlacks, fun entry hentry => hfails entry hentry ?_⟩
  exact Catalog.builtin_classIdentifier_ne .interface _ hscalar entry hentry

end Request

end Siblings
