import Catalog.Result.Simple
import Catalog.Proofs.Federated

/-!
# Lenient names agree

The three enumerations are read from user input by three readers written three ways: the entity
kind folds the trimmed text to ASCII upper case and compares it with its names, the sort order
folds it to lower case and compares it with its names in lower case, and the facet kind
compares each of its names with the trimmed text ignoring ASCII case.

They agree with one rule (`ReadsNames`): a text reads as a value exactly when the text, trimmed
of Unicode blanks, is the value's name up to ASCII case (`Text.EqualUpToAsciiCase`).  Case is
said character by character (`Text.SameUpToAsciiCase`), so only the 26 ASCII letters have two
forms, and no other character, a non-ASCII letter included, stands for an ASCII one.  A
simple-search row is kept exactly when its stored type reads so as an entity kind.

* `Text.lowerChar_eq_lowerChar_iff`, `Text.upperChar_eq_upperChar_iff`: folding either way
  identifies exactly the characters that are the same up to ASCII case.
* `Text.trim_blank_append`: blanks around a text that neither starts nor ends with one are
  trimmed away, so every reader takes any case change of a name, with any blanks around it
  (`ReadsNames.parse_blank_append`); and trimming twice is trimming once (`Text.trim_trim`).
* `ReadsNames.ascii_of_parse`: a text read as a name is ASCII once trimmed; with the above,
  `ReadsNames.lenient` for any reader of names of non-blank ASCII characters.
* `lenient_readers_agree`: the main statement.
-/

namespace Catalog

namespace Text

/-! ### Case, character by character -/

/-- Two characters are the same up to ASCII case: equal, or an ASCII lower-case letter and
its upper-case form, either way round. -/
def SameUpToAsciiCase (c d : Char) : Prop :=
  c = d ∨ (c.isLower ∧ c.toNat = d.toNat + 32) ∨ (d.isLower ∧ d.toNat = c.toNat + 32)

instance : DecidableRel SameUpToAsciiCase := fun c d =>
  inferInstanceAs (Decidable (c = d ∨ (c.isLower ∧ c.toNat = d.toNat + 32) ∨
    (d.isLower ∧ d.toNat = c.toNat + 32)))

/-- Two texts are equal up to ASCII case, character by character. -/
def EqualUpToAsciiCase (a b : String) : Prop :=
  List.Forall₂ SameUpToAsciiCase a.toList b.toList

instance : DecidableRel EqualUpToAsciiCase := fun a b =>
  inferInstanceAs (Decidable (List.Forall₂ SameUpToAsciiCase a.toList b.toList))

theorem isLower_iff (c : Char) : c.isLower ↔ 97 ≤ c.toNat ∧ c.toNat ≤ 122 := by
  simp [Char.isLower, UInt32.le_iff_toNat_le, ← Char.toNat_val]

theorem toNat_ofNat_of_lt {n : Nat} (h : n < 0xd800) : (Char.ofNat n).toNat = n := by
  simp [Char.toNat_ofNat, Nat.isValidChar, h]

theorem toNat_lowerChar (c : Char) :
    (lowerChar c).toNat = if 65 ≤ c.toNat ∧ c.toNat ≤ 90 then c.toNat + 32 else c.toNat := by
  have hrange : ('A' ≤ c ∧ c ≤ 'Z') ↔ 65 ≤ c.toNat ∧ c.toNat ≤ 90 := by
    simp [Char.le_def, UInt32.le_iff_toNat_le, ← Char.toNat_val]
  unfold lowerChar
  by_cases h : 65 ≤ c.toNat ∧ c.toNat ≤ 90
  · rw [if_pos (hrange.mpr h), if_pos h, toNat_ofNat_of_lt (by omega)]
  · rw [if_neg (fun h' => h (hrange.mp h')), if_neg h]

theorem toNat_upperChar (c : Char) :
    (upperChar c).toNat = if 97 ≤ c.toNat ∧ c.toNat ≤ 122 then c.toNat - 32 else c.toNat := by
  have hrange : ('a' ≤ c ∧ c ≤ 'z') ↔ 97 ≤ c.toNat ∧ c.toNat ≤ 122 := by
    simp [Char.le_def, UInt32.le_iff_toNat_le, ← Char.toNat_val]
  unfold upperChar
  by_cases h : 97 ≤ c.toNat ∧ c.toNat ≤ 122
  · rw [if_pos (hrange.mpr h), if_pos h, toNat_ofNat_of_lt (by omega)]
  · rw [if_neg (fun h' => h (hrange.mp h')), if_neg h]

theorem sameUpToAsciiCase_iff (c d : Char) :
    SameUpToAsciiCase c d ↔ c.toNat = d.toNat ∨
      (97 ≤ c.toNat ∧ c.toNat ≤ 122 ∧ c.toNat = d.toNat + 32) ∨
      (97 ≤ d.toNat ∧ d.toNat ≤ 122 ∧ d.toNat = c.toNat + 32) := by
  simp only [SameUpToAsciiCase, isLower_iff, Char.toNat_inj, and_assoc]

/-- **Folding to lower case** identifies exactly the characters that are the same up to ASCII
case. -/
theorem lowerChar_eq_lowerChar_iff (c d : Char) :
    lowerChar c = lowerChar d ↔ SameUpToAsciiCase c d := by
  rw [← Char.toNat_inj, toNat_lowerChar, toNat_lowerChar, sameUpToAsciiCase_iff]
  split_ifs <;> omega

/-- **Folding to upper case** identifies the same characters. -/
theorem upperChar_eq_upperChar_iff (c d : Char) :
    upperChar c = upperChar d ↔ SameUpToAsciiCase c d := by
  rw [← Char.toNat_inj, toNat_upperChar, toNat_upperChar, sameUpToAsciiCase_iff]
  split_ifs <;> omega

theorem map_eq_map_iff_forall₂ {α β : Type} (f : α → β) (l l' : List α) :
    l.map f = l'.map f ↔ List.Forall₂ (fun x y => f x = f y) l l' := by
  rw [← List.forall₂_eq_eq_eq, List.forall₂_map_left_iff, List.forall₂_map_right_iff]

/-- Folding each character by a map that identifies exactly the characters the same up to
ASCII case identifies exactly the texts equal up to ASCII case. -/
theorem map_eq_map_iff_equalUpToAsciiCase {f : Char → Char}
    (hf : ∀ c d, f c = f d ↔ SameUpToAsciiCase c d) (a b : String) :
    a.toList.map f = b.toList.map f ↔ EqualUpToAsciiCase a b := by
  rw [map_eq_map_iff_forall₂]
  simp only [hf, EqualUpToAsciiCase]

theorem asciiLower_eq_asciiLower_iff (a b : String) :
    asciiLower a = asciiLower b ↔ EqualUpToAsciiCase a b := by
  rw [asciiLower, asciiLower, ← String.toList_inj, String.toList_ofList, String.toList_ofList]
  exact map_eq_map_iff_equalUpToAsciiCase lowerChar_eq_lowerChar_iff a b

theorem asciiUpper_eq_asciiUpper_iff (a b : String) :
    asciiUpper a = asciiUpper b ↔ EqualUpToAsciiCase a b := by
  rw [asciiUpper, asciiUpper, ← String.toList_inj, String.toList_ofList, String.toList_ofList]
  exact map_eq_map_iff_equalUpToAsciiCase upperChar_eq_upperChar_iff a b

theorem equalsIgnoringAsciiCase_iff (a b : String) :
    equalsIgnoringAsciiCase a b = true ↔ EqualUpToAsciiCase a b := by
  rw [equalsIgnoringAsciiCase, beq_iff_eq]
  exact map_eq_map_iff_equalUpToAsciiCase lowerChar_eq_lowerChar_iff a b

theorem EqualUpToAsciiCase.symm {a b : String} (h : EqualUpToAsciiCase a b) :
    EqualUpToAsciiCase b a :=
  (asciiLower_eq_asciiLower_iff b a).mp ((asciiLower_eq_asciiLower_iff a b).mpr h).symm

/-- A character that is the same up to case as a non-blank one is not blank: only ASCII
letters change case. -/
theorem SameUpToAsciiCase.not_blank {c d : Char} (h : SameUpToAsciiCase c d)
    (hd : isBlankChar d = false) : isBlankChar c = false := by
  rw [sameUpToAsciiCase_iff] at h
  rcases h with h | h | h
  · rwa [← Char.toNat_inj.mp h] at hd
  all_goals
    simp only [isBlankChar, Bool.or_eq_false_iff, Bool.and_eq_false_iff, decide_eq_false_iff_not]
    omega

theorem EqualUpToAsciiCase.trans {a b c : String} (hab : EqualUpToAsciiCase a b)
    (hbc : EqualUpToAsciiCase b c) : EqualUpToAsciiCase a c := by
  rw [← asciiLower_eq_asciiLower_iff] at hab hbc ⊢
  rw [hab, hbc]

/-- A property that passes to every character the same up to case as one having it passes
along texts equal up to case. -/
theorem forall_mem_of_forall₂ {P : Char → Prop} (hP : ∀ c d, SameUpToAsciiCase c d → P d → P c)
    {l l' : List Char} (h : List.Forall₂ SameUpToAsciiCase l l') (hl' : ∀ d ∈ l', P d) :
    ∀ c ∈ l, P c := by
  induction h with
  | nil => simp
  | cons hcd _ ih =>
    intro x hx
    rcases List.mem_cons.mp hx with rfl | hx
    · exact hP _ _ hcd (hl' _ List.mem_cons_self)
    · exact ih (fun d hd => hl' d (List.mem_cons_of_mem _ hd)) x hx

/-- Each character of a text equal up to case to one without blanks is not blank. -/
theorem not_blank_of_forall₂ {l l' : List Char} (h : List.Forall₂ SameUpToAsciiCase l l')
    (hl' : ∀ d ∈ l', isBlankChar d = false) : ∀ c ∈ l, isBlankChar c = false :=
  forall_mem_of_forall₂ (fun _ _ hcd hd => hcd.not_blank hd) h hl'

/-- Only an ASCII character is the same up to ASCII case as an ASCII one. -/
theorem SameUpToAsciiCase.ascii {c d : Char} (h : SameUpToAsciiCase c d) (hd : d.toNat < 128) :
    c.toNat < 128 := by
  rw [sameUpToAsciiCase_iff] at h
  omega

/-! ### Blanks around a text -/

theorem dropBlank_blank_append {pre : List Char} (hpre : ∀ c ∈ pre, isBlankChar c = true)
    (l : List Char) : dropBlank (pre ++ l) = dropBlank l := by
  induction pre with
  | nil => rfl
  | cons c rest ih =>
    rw [List.cons_append, dropBlank, if_pos (hpre c List.mem_cons_self)]
    exact ih fun x hx => hpre x (List.mem_cons_of_mem c hx)

theorem dropBlank_of_head {c : Char} (hc : isBlankChar c = false) (rest : List Char) :
    dropBlank (c :: rest) = c :: rest := by
  simp [dropBlank, hc]

/-- Dropping blanks from the front keeps the last character, if any is left. -/
theorem mem_getLast?_of_mem_getLast?_dropBlank {l : List Char} {x : Char}
    (h : x ∈ (dropBlank l).getLast?) : x ∈ l.getLast? := by
  induction l with
  | nil => simp [dropBlank] at h
  | cons c rest ih =>
    by_cases hc : isBlankChar c = true
    · rw [dropBlank, if_pos hc] at h
      have hx := ih h
      cases rest with
      | nil => simp at hx
      | cons d ds => simpa [List.getLast?_cons_cons] using hx
    · rwa [dropBlank_of_head (by simpa using hc)] at h

theorem not_blank_of_mem_head?_dropBlank {l : List Char} {c : Char}
    (h : c ∈ (dropBlank l).head?) : isBlankChar c = false := by
  cases hd : dropBlank l with
  | nil => simp [hd] at h
  | cons d rest =>
    rw [hd, List.head?_cons, Option.mem_some_iff] at h
    subst h
    exact isBlankChar_of_dropBlank_eq_cons hd

/-- A trimmed text neither starts nor ends with a blank. -/
theorem not_blank_of_mem_ends_trim (s : String) :
    (∀ c ∈ (trim s).toList.head?, isBlankChar c = false) ∧
      ∀ c ∈ (trim s).toList.getLast?, isBlankChar c = false := by
  rw [trim, String.toList_ofList, List.head?_reverse, List.getLast?_reverse]
  refine ⟨fun c hc => ?_, fun c hc => not_blank_of_mem_head?_dropBlank hc⟩
  -- the last character left is the last of the front-trimmed text reversed, i.e. its first
  have hc' := mem_getLast?_of_mem_getLast?_dropBlank hc
  rw [List.getLast?_reverse] at hc'
  exact not_blank_of_mem_head?_dropBlank hc'

/-- **Blanks around a text are trimmed away**, when the text neither starts nor ends with a
blank. -/
theorem trim_blank_append {pre t post : String} (hpre : isBlank pre = true)
    (hpost : isBlank post = true) (hhead : ∀ c ∈ t.toList.head?, isBlankChar c = false)
    (hlast : ∀ c ∈ t.toList.getLast?, isBlankChar c = false) : trim (pre ++ t ++ post) = t := by
  rw [isBlank, List.all_eq_true] at hpre hpost
  by_cases ht : t.toList = []
  · -- blanks alone trim to nothing
    rw [String.toList_eq_nil_iff] at ht
    subst ht
    rw [trim_eq_empty_iff, isBlank, List.all_eq_true]
    intro c hc
    simp only [String.toList_append, String.toList_empty, List.append_nil, List.mem_append] at hc
    exact hc.elim (hpre c) (hpost c)
  obtain ⟨c, rest, hcons⟩ := List.exists_cons_of_ne_nil ht
  obtain ⟨init, e, hsnoc⟩ := (List.eq_nil_or_concat t.toList).resolve_left ht
  -- the front goes first, and then, read backwards, the back
  have hfront : dropBlank (pre ++ t ++ post).toList = t.toList ++ post.toList := by
    rw [String.toList_append, String.toList_append, List.append_assoc,
      dropBlank_blank_append hpre, hcons, List.cons_append,
      dropBlank_of_head (hhead c (by simp [hcons]))]
  have hback : dropBlank (t.toList ++ post.toList).reverse = t.toList.reverse := by
    rw [List.reverse_append, dropBlank_blank_append (by simpa using hpost), hsnoc,
      List.concat_eq_append, List.reverse_append, List.reverse_singleton, List.singleton_append]
    exact dropBlank_of_head (hlast e (by simp [hsnoc])) _
  rw [trim, hfront, hback, List.reverse_reverse, String.ofList_toList]

/-- **Trimming twice is trimming once.** -/
theorem trim_trim (s : String) : trim (trim s) = trim s := by
  obtain ⟨hhead, hlast⟩ := not_blank_of_mem_ends_trim s
  have h : trim ("" ++ trim s ++ "") = trim s := trim_blank_append rfl rfl hhead hlast
  simpa using h

end Text

/-! ### Readers of names -/

/-- A lenient reader of names: a text reads as `a` exactly when, trimmed, it is `a`'s name up
to ASCII case. -/
def ReadsNames {α : Type} (parse : String → Option α) (name : α → String) : Prop :=
  ∀ s a, parse s = some a ↔ Text.EqualUpToAsciiCase (Text.trim s) (name a)

/-- **A reader of names takes any case change of a name with any blanks around it**, when
the name has no blank in it. -/
theorem ReadsNames.parse_blank_append {α : Type} {parse : String → Option α}
    {name : α → String} (h : ReadsNames parse name) {a : α}
    (hname : ∀ c ∈ (name a).toList, Text.isBlankChar c = false) {pre t post : String}
    (hpre : Text.isBlank pre = true) (hpost : Text.isBlank post = true)
    (ht : Text.EqualUpToAsciiCase t (name a)) : parse (pre ++ t ++ post) = some a := by
  -- each character of `t` is one of the name's up to case, so none is blank
  have htnb := Text.not_blank_of_forall₂ ht hname
  rw [h, Text.trim_blank_append hpre hpost (fun c hc => htnb c (List.mem_of_mem_head? hc))
    (fun c hc => htnb c (List.mem_of_mem_getLast? hc))]
  exact ht

/-- **No other character stands for an ASCII one**: a text read as a value with an ASCII
name is ASCII once trimmed, so no non-ASCII letter is taken for an ASCII one. -/
theorem ReadsNames.ascii_of_parse {α : Type} {parse : String → Option α} {name : α → String}
    (h : ReadsNames parse name) {s : String} {a : α} (hs : parse s = some a)
    (hname : ∀ c ∈ (name a).toList, c.toNat < 128) : ∀ c ∈ (Text.trim s).toList, c.toNat < 128 :=
  Text.forall_mem_of_forall₂ (fun _ _ hcd hd => hcd.ascii hd) ((h s a).mp hs) hname

/-- **A reader of names of non-blank ASCII characters** takes any case change of a name with
any blanks around it, and reads no text that is not ASCII once trimmed. -/
theorem ReadsNames.lenient {α : Type} {parse : String → Option α} {name : α → String}
    (h : ReadsNames parse name)
    (hname : ∀ a, ∀ c ∈ (name a).toList, Text.isBlankChar c = false ∧ c.toNat < 128) :
    (∀ a pre t post, Text.isBlank pre = true → Text.isBlank post = true →
        Text.EqualUpToAsciiCase t (name a) → parse (pre ++ t ++ post) = some a) ∧
      ∀ s a, parse s = some a → ∀ c ∈ (Text.trim s).toList, c.toNat < 128 := by
  refine ⟨fun a _ _ _ hpre hpost ht => ?_, fun _ a hs => ?_⟩
  · exact h.parse_blank_append (fun c hc => (hname a c hc).1) hpre hpost ht
  · exact h.ascii_of_parse hs (fun c hc => (hname a c hc).2)

namespace EntityKind

theorem name_chars (k : EntityKind) :
    ∀ c ∈ k.name.toList, Text.isBlankChar c = false ∧ c.toNat < 128 := by
  cases k <;> simp [name, Text.isBlankChar]

theorem asciiUpper_name (k : EntityKind) : Text.asciiUpper k.name = k.name := by
  cases k <;> decide

theorem parse_eq_some_iff (s : String) (k : EntityKind) :
    parse s = some k ↔ Text.asciiUpper (Text.trim s) = k.name := by
  unfold parse
  split <;> rename_i h <;> cases k <;> simp_all [name]

theorem readsNames : ReadsNames parse name := by
  intro s k
  calc parse s = some k ↔ Text.asciiUpper (Text.trim s) = Text.asciiUpper k.name := by
        rw [parse_eq_some_iff, asciiUpper_name]
    _ ↔ Text.EqualUpToAsciiCase (Text.trim s) k.name := Text.asciiUpper_eq_asciiUpper_iff _ _

end EntityKind

namespace SearchSort

theorem wireName_chars (v : SearchSort) :
    ∀ c ∈ v.wireName.toList, Text.isBlankChar c = false ∧ c.toNat < 128 := by
  cases v <;> simp [wireName, Text.isBlankChar]

theorem parse_eq_some_iff (s : String) (v : SearchSort) :
    parse s = some v ↔ Text.asciiLower (Text.trim s) = Text.asciiLower v.wireName := by
  have hname : Text.asciiLower (wireName .name) = "name" := by decide
  have hupdated : Text.asciiLower (wireName .updatedAt) = "updated_at" := by decide
  unfold parse
  split <;> rename_i h <;> cases v <;> simp_all

theorem readsNames : ReadsNames parse wireName := by
  intro s v
  rw [parse_eq_some_iff, Text.asciiLower_eq_asciiLower_iff]

end SearchSort

namespace FacetKind

theorem name_chars (f : FacetKind) :
    ∀ c ∈ f.name.toList, Text.isBlankChar c = false ∧ c.toNat < 128 := by
  cases f <;> simp [name, Text.isBlankChar]

theorem mem_all (f : FacetKind) : f ∈ all := by
  cases f <;> simp [all]

/-- No two facet kinds have names equal up to ASCII case. -/
theorem eq_of_equalsIgnoringAsciiCase {f g : FacetKind}
    (h : Text.equalsIgnoringAsciiCase f.name g.name = true) : f = g := by
  cases f <;> cases g <;> revert h <;> decide

theorem parse_eq_some_iff (s : String) (f : FacetKind) :
    parse s = some f ↔ Text.equalsIgnoringAsciiCase f.name (Text.trim s) = true := by
  constructor
  · exact List.find?_some
  · intro hf
    -- the reader finds some kind, and two kinds never both match
    have hsome : (all.find? fun k => Text.equalsIgnoringAsciiCase k.name (Text.trim s)).isSome :=
      List.find?_isSome.mpr ⟨f, mem_all f, hf⟩
    obtain ⟨g, hg⟩ := Option.isSome_iff_exists.mp hsome
    have hgmatch : Text.equalsIgnoringAsciiCase g.name (Text.trim s) = true := by
      have h := List.find?_some hg
      beta_reduce at h
      exact h
    have hgs := (Text.equalsIgnoringAsciiCase_iff g.name (Text.trim s)).mp hgmatch
    have hfs := (Text.equalsIgnoringAsciiCase_iff f.name (Text.trim s)).mp hf
    have hgf := (Text.equalsIgnoringAsciiCase_iff g.name f.name).mpr (hgs.trans hfs.symm)
    rw [parse, hg, eq_of_equalsIgnoringAsciiCase hgf]

theorem readsNames : ReadsNames parse name := by
  intro s f
  rw [parse_eq_some_iff, Text.equalsIgnoringAsciiCase_iff]
  exact ⟨Text.EqualUpToAsciiCase.symm, Text.EqualUpToAsciiCase.symm⟩

end FacetKind

theorem SimpleSearchRow.toResult_eq_some_iff (row : SimpleSearchRow) (r : SimpleSearchResult) :
    row.toResult = some r ↔ Text.EqualUpToAsciiCase (Text.trim row.kind) r.kind.name ∧
      r.name = row.name ∧ r.namespaceName = row.namespaceName ∧
      r.updatedAt = row.updatedAt := by
  obtain ⟨kind, name, namespaceName, updatedAt⟩ := r
  rw [toResult, Option.map_eq_some_iff]
  constructor
  · rintro ⟨k, hk, hr⟩
    cases hr
    exact ⟨(EntityKind.readsNames _ _).mp hk, rfl, rfl, rfl⟩
  · rintro ⟨hk, rfl, rfl, rfl⟩
    exact ⟨kind, (EntityKind.readsNames _ _).mpr hk, rfl⟩

/-- **The lenient readers agree**: the entity kind, the sort order and the facet kind each read
a text as the value whose name the trimmed text is, up to ASCII case, and so take any case
change of a name with any blanks around it; what they read is ASCII once trimmed, so no other
character stands for an ASCII letter.  A simple-search row is kept, with its name, namespace
and update time, exactly when its type reads as an entity kind. -/
theorem lenient_readers_agree :
    (ReadsNames EntityKind.parse EntityKind.name ∧
      (∀ k pre t post, Text.isBlank pre = true → Text.isBlank post = true →
        Text.EqualUpToAsciiCase t k.name → EntityKind.parse (pre ++ t ++ post) = some k) ∧
      ∀ s k, EntityKind.parse s = some k → ∀ c ∈ (Text.trim s).toList, c.toNat < 128) ∧
    (ReadsNames SearchSort.parse SearchSort.wireName ∧
      (∀ v pre t post, Text.isBlank pre = true → Text.isBlank post = true →
        Text.EqualUpToAsciiCase t v.wireName → SearchSort.parse (pre ++ t ++ post) = some v) ∧
      ∀ s v, SearchSort.parse s = some v → ∀ c ∈ (Text.trim s).toList, c.toNat < 128) ∧
    (ReadsNames FacetKind.parse FacetKind.name ∧
      (∀ f pre t post, Text.isBlank pre = true → Text.isBlank post = true →
        Text.EqualUpToAsciiCase t f.name → FacetKind.parse (pre ++ t ++ post) = some f) ∧
      ∀ s f, FacetKind.parse s = some f → ∀ c ∈ (Text.trim s).toList, c.toNat < 128) ∧
    ∀ (row : SimpleSearchRow) (r : SimpleSearchResult), row.toResult = some r ↔
      Text.EqualUpToAsciiCase (Text.trim row.kind) r.kind.name ∧ r.name = row.name ∧
        r.namespaceName = row.namespaceName ∧ r.updatedAt = row.updatedAt :=
  ⟨⟨EntityKind.readsNames, EntityKind.readsNames.lenient EntityKind.name_chars⟩,
    ⟨SearchSort.readsNames, SearchSort.readsNames.lenient SearchSort.wireName_chars⟩,
    ⟨FacetKind.readsNames, FacetKind.readsNames.lenient FacetKind.name_chars⟩,
    SimpleSearchRow.toResult_eq_some_iff⟩

/-- An ideographic space, `uPdAtEd_At` and a line feed read as the update-time order. -/
theorem lenient_sort_with_blanks :
    Text.isBlank "　" = true ∧ Text.isBlank "\n" = true ∧
      Text.EqualUpToAsciiCase "uPdAtEd_At" SearchSort.updatedAt.wireName ∧
      SearchSort.parse ("　" ++ "uPdAtEd_At" ++ "\n") = some .updatedAt := by
  have hpre : Text.isBlank "　" = true := by decide
  have hpost : Text.isBlank "\n" = true := by decide
  have hcase : Text.EqualUpToAsciiCase "uPdAtEd_At" SearchSort.updatedAt.wireName := by decide
  exact ⟨hpre, hpost, hcase, lenient_readers_agree.2.1.2.1 _ _ _ _ hpre hpost hcase⟩

end Catalog
