import Catalog.Proofs.LenientNames
import Catalog.Config.Load

/-!
# The rules of a configuration

A configuration is normalized and then validated.  Said of the configuration as written, the
rules are (`Config.rules`): the HTTP address, the admin address and the connection string
are not blank; there is a connection; the minimum page size is at least one and at most the
maximum; the default page size lies between them; and the producer and schema URLs are not
blank.  Validation reports the first rule broken, in that order (`FirstBroken`), by a message
that starts with the dotted name of the setting.

A configuration that loads is normalized, and normalizing it again changes nothing: its log
level and lineage URLs are their own trim, and the log level is never empty.

* `Config.validate_normalize_eq_checkRules`: validation of the normalized configuration is
  the rules checked in order.
* `checkRules_eq_ok_iff`, `checkRules_eq_error_iff`: rules checked in order pass when all
  hold, and fail with the first one broken.
* `Config.normalize_normalize`: normalizing is idempotent.
* `Config.normalized_configuration_rules`: the main statement.
-/

namespace Catalog

/-! ### Rules checked in order -/

/-- A rule of a configuration: the setting it is about, by its dotted name, whether it holds,
and the problem reported when it does not. -/
structure ConfigRule where
  field : String
  holds : Bool
  problem : ConfigProblem

/-- Rules checked in order: the first that does not hold is reported. -/
def checkRules : List ConfigRule → Except ConfigProblem Unit
  | [] => .ok ()
  | r :: rest => if r.holds then checkRules rest else .error r.problem

/-- `p` is the problem of the first rule that does not hold. -/
def FirstBroken (rules : List ConfigRule) (p : ConfigProblem) : Prop :=
  ∃ kept r rest, rules = kept ++ r :: rest ∧ (∀ q ∈ kept, q.holds = true) ∧
    r.holds = false ∧ r.problem = p

theorem checkRules_eq_ok_iff (rules : List ConfigRule) :
    checkRules rules = .ok () ↔ ∀ r ∈ rules, r.holds = true := by
  induction rules with
  | nil => simp [checkRules]
  | cons r rest ih =>
    by_cases hr : r.holds = true
    · simp [checkRules, hr, ih]
    · simp [checkRules, hr]

/-- The first broken rule is the head, when it is broken, or else the first broken one after
it. -/
theorem firstBroken_cons_iff (r : ConfigRule) (rest : List ConfigRule) (p : ConfigProblem) :
    FirstBroken (r :: rest) p ↔
      (r.holds = false ∧ r.problem = p) ∨ (r.holds = true ∧ FirstBroken rest p) := by
  constructor
  · rintro ⟨kept, q, post, heq, hkept, hq, hp⟩
    -- either nothing is kept before the broken rule, or the head is kept
    cases kept with
    | nil =>
      obtain ⟨rfl, -⟩ := List.cons.inj heq
      exact .inl ⟨hq, hp⟩
    | cons k kept =>
      obtain ⟨rfl, hrest⟩ := List.cons.inj heq
      exact .inr ⟨hkept _ List.mem_cons_self,
        kept, q, post, hrest, fun x hx => hkept x (List.mem_cons_of_mem _ hx), hq, hp⟩
  · rintro (⟨hr, rfl⟩ | ⟨hr, kept, q, post, rfl, hkept, hq, hp⟩)
    · exact ⟨[], r, rest, rfl, by simp, hr, rfl⟩
    · refine ⟨r :: kept, q, post, rfl, fun x hx => ?_, hq, hp⟩
      rcases List.mem_cons.mp hx with rfl | hx
      · exact hr
      · exact hkept x hx

theorem checkRules_eq_error_iff (rules : List ConfigRule) (p : ConfigProblem) :
    checkRules rules = .error p ↔ FirstBroken rules p := by
  induction rules with
  | nil => simp [checkRules, FirstBroken]
  | cons r rest ih =>
    rw [firstBroken_cons_iff, ← ih]
    cases hr : r.holds <;> simp [checkRules, hr]

/-! ### The rules of a configuration -/

namespace Config

/-- **The rules of a configuration**, said of it as written, in the order they are checked. -/
def rules (c : Config) : List ConfigRule :=
  [⟨"service.http_bind", Text.trim c.service.httpBind ≠ "", .blank "service.http_bind"⟩,
    ⟨"service.admin_bind", Text.trim c.service.adminBind ≠ "", .blank "service.admin_bind"⟩,
    ⟨"storage.postgres.dsn", Text.trim c.storage.postgres.dsn ≠ "",
      .blank "storage.postgres.dsn"⟩,
    ⟨"storage.postgres.pool_max_conns", 0 < c.storage.postgres.poolMaxConns, .noConnections⟩,
    ⟨"search.min_limit", 1 ≤ c.search.minLimit, .zeroMinimum⟩,
    ⟨"search.max_limit", c.search.minLimit ≤ c.search.maxLimit, .maximumBelowMinimum⟩,
    ⟨"search.default_limit",
      c.search.minLimit ≤ c.search.defaultLimit ∧ c.search.defaultLimit ≤ c.search.maxLimit,
      .defaultOutsideBounds⟩,
    ⟨"lineage.producer", Text.trim c.lineage.producer ≠ "", .emptyUrl "lineage.producer"⟩,
    ⟨"lineage.schema_url", Text.trim c.lineage.schemaUrl ≠ "",
      .emptyUrl "lineage.schema_url"⟩]

/-- **Validating the normalized configuration checks its rules in order.**  Normalizing trims
the URLs, so an empty URL after it is a blank one before. -/
theorem validate_normalize_eq_checkRules (c : Config) :
    c.normalize.validate = checkRules c.rules := by
  simp only [validate, normalize, rules, checkRules, decide_eq_true_eq, ne_eq,
    Text.trim_eq_empty_iff, String.isEmpty_iff, Nat.pos_iff_ne_zero, ← Nat.not_lt,
    Nat.lt_one_iff, ← not_or, ite_not]

/-- Every rule's message starts with the name of its setting. -/
theorem message_names_field (c : Config) :
    ∀ r ∈ c.rules, r.field.isPrefixOf r.problem.message = true := by
  intro r hr
  simp only [rules, List.mem_cons, List.not_mem_nil, or_false] at hr
  rcases hr with rfl | rfl | rfl | rfl | rfl | rfl | rfl | rfl | rfl <;> dsimp only <;>
    decide +kernel

/-! ### Normalizing -/

theorem trim_logLevel_normalize (c : Config) :
    Text.trim c.normalize.service.logLevel = c.normalize.service.logLevel := by
  simp only [normalize]
  split_ifs
  · decide
  · exact Text.trim_trim _

theorem logLevel_normalize_of_blank (c : Config) (h : Text.isBlank c.service.logLevel = true) :
    c.normalize.service.logLevel = "info" := by
  rw [← Text.trim_eq_empty_iff] at h
  simp [normalize, h]

theorem logLevel_normalize_ne_empty (c : Config) : c.normalize.service.logLevel ≠ "" := by
  simp only [normalize]
  split_ifs with h
  · decide
  · rwa [String.isEmpty_iff] at h

/-- **Normalizing twice is normalizing once.** -/
theorem normalize_normalize (c : Config) : c.normalize.normalize = c.normalize := by
  have hlevel := trim_logLevel_normalize c
  have hne := logLevel_normalize_ne_empty c
  -- the URLs of a normalized configuration are trimmed already
  have hproducer : Text.trim c.normalize.lineage.producer = c.normalize.lineage.producer :=
    Text.trim_trim _
  have hschema : Text.trim c.normalize.lineage.schemaUrl = c.normalize.lineage.schemaUrl :=
    Text.trim_trim _
  generalize c.normalize = n at hlevel hne hproducer hschema
  have hempty : n.service.logLevel.isEmpty = false := by simpa [String.isEmpty_iff] using hne
  simp only [normalize, hlevel, hempty, hproducer, hschema, Bool.false_eq_true, ite_false]

end Config

/-- What loads is a normalized configuration that passes validation. -/
theorem Config.load_eq_ok {bytes : List Nat} {c : Config} (h : Config.load bytes = .ok c) :
    ∃ raw : Config, c = raw.normalize ∧ raw.normalize.validate = .ok () := by
  unfold Config.load at h
  split at h
  · cases h
  · split at h
    · cases h
    · split at h
      · cases h
      · rename_i raw _
        dsimp only at h
        split at h
        · cases h
        · rename_i hvalid
          cases h
          exact ⟨raw, rfl, hvalid⟩

namespace Config

/-- **The rules of a configuration.**  The normalized configuration is valid exactly when all
rules hold, and otherwise fails with the first rule broken, whose message names its setting;
a blank log level becomes `info`.  What loads is normalized for good: its log level and lineage
URLs are their own trim, and the log level is not empty. -/
theorem normalized_configuration_rules :
    (∀ c : Config, (c.normalize.validate = .ok () ↔ ∀ r ∈ c.rules, r.holds = true) ∧
      (∀ p, c.normalize.validate = .error p ↔ FirstBroken c.rules p) ∧
      (∀ r ∈ c.rules, r.field.isPrefixOf r.problem.message = true) ∧
      (Text.isBlank c.service.logLevel = true → c.normalize.service.logLevel = "info")) ∧
    ∀ bytes c, Config.load bytes = .ok c →
      c.normalize = c ∧ Text.trim c.lineage.producer = c.lineage.producer ∧
        Text.trim c.lineage.schemaUrl = c.lineage.schemaUrl ∧
        Text.trim c.service.logLevel = c.service.logLevel ∧ c.service.logLevel ≠ "" := by
  refine ⟨fun c => ⟨?_, fun p => ?_, message_names_field c, logLevel_normalize_of_blank c⟩,
    fun bytes c h => ?_⟩
  · rw [validate_normalize_eq_checkRules, checkRules_eq_ok_iff]
  · rw [validate_normalize_eq_checkRules, checkRules_eq_error_iff]
  · obtain ⟨raw, rfl, -⟩ := Config.load_eq_ok h
    exact ⟨normalize_normalize raw, Text.trim_trim _, Text.trim_trim _,
      trim_logLevel_normalize raw, logLevel_normalize_ne_empty raw⟩

/-- A file with only the required settings loads, normalized for good. -/
theorem normalized_configuration_rules_of_minimal_file :
    let bytes := ("[service]\nhttp_bind = \"a\"\nadmin_bind = \"b\"\n" ++
      "[storage.postgres]\ndsn = \"d\"\npool_max_conns = 1\n").toList.map Char.toNat
    ∃ c, Config.load bytes = .ok c ∧
      c.normalize = c ∧ Text.trim c.lineage.producer = c.lineage.producer ∧
        Text.trim c.lineage.schemaUrl = c.lineage.schemaUrl ∧
        Text.trim c.service.logLevel = c.service.logLevel ∧ c.service.logLevel ≠ "" := by
  intro bytes
  have hloads : (Config.load bytes).toBool = true := by decide +kernel
  cases h : Config.load bytes with
  | error e => rw [h] at hloads; cases hloads
  | ok c => exact ⟨c, rfl, normalized_configuration_rules.2 bytes c h⟩

end Config

end Catalog
