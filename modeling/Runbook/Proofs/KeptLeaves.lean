import Mathlib.Data.List.Flatten
import Mathlib.Data.List.Perm.Subperm
import Runbook.Proofs.Splicing

/-!
# Leaves that are left when keys are merged

Keys are written by their texts, and of two keys with one text the later value stays in the place of
the earlier one. So data is not written as it is, but as data with texts as keys (`Value.dumped`).
The leaves of the dumped data are some of the leaves of the data, and not always in the same order
(`Value.keptLeaves`).

Dumping and filling the leaves commute: the gap that a leaf leaves in dumped data is the one that
its number stands at among the kept ones (`dumped_fill`).
-/

namespace Runbook

namespace Value

/-! ## Dumped data -/

mutual
/-- Data as it is written. Keys become texts; of two keys with one text the later value stays. -/
def dumped : Value → Value
  | .mapping entries => Markdown.textDict (setNames (dumpedEntries entries))
  | .list items => .list (dumpedItems items)
  | .tuple items => .list (dumpedItems items)
  | value => value

/-- The items of a sequence as they are written. -/
def dumpedItems : List Value → List Value
  | [] => []
  | item :: rest => dumped item :: dumpedItems rest

/-- The entries of a mapping, each as it is written. -/
def dumpedEntries : List (Value × Value) → List (String × Value)
  | [] => []
  | (key, value) :: rest => (key.display, dumped value) :: dumpedEntries rest
end

mutual
/-- The numbers of the staged leaves that dumped data holds, in the order in which it holds them.
The leaves of the data itself are numbered from `start` on. -/
def keptLeaves (start : Nat) : Value → List Nat
  | .staged _ => [start]
  | .mapping entries => (setNames (keptEntries start entries)).flatMap Prod.snd
  | .list items => keptItems start items
  | .tuple items => keptItems start items
  | _ => []

/-- The numbers of the leaves that are kept in the items of a sequence. -/
def keptItems (start : Nat) : List Value → List Nat
  | [] => []
  | item :: rest => keptLeaves start item ++ keptItems (start + item.stagedLeaves.length) rest

/-- The texts of the keys of a mapping, with the numbers of the leaves kept in its values. -/
def keptEntries (start : Nat) : List (Value × Value) → List (String × List Nat)
  | [] => []
  | (key, value) :: rest =>
    (key.display, keptLeaves start value) ::
      keptEntries (start + value.stagedLeaves.length) rest
end

/-! ## Which leaves are kept -/

private theorem subperm_setNames (entries : List (String × List Nat)) :
    ((setNames entries).flatMap Prod.snd).Subperm (entries.flatMap Prod.snd) := by
  have hnodup : (setNames entries).Nodup := .of_map Prod.fst (nodup_setNames entries)
  obtain ⟨kept, hperm, hsublist⟩ := hnodup.subperm fun _ ↦ mem_setNames
  exact ⟨kept.flatMap Prod.snd, hperm.flatMap_right _, hsublist.flatMap _⟩

mutual
/-- No leaf is kept twice. -/
theorem keptLeaves_subperm (start : Nat) (value : Value) :
    (keptLeaves start value).Subperm (List.range' start value.stagedLeaves.length) := by
  match value with
  | .staged _ => exact .refl _
  | .mapping entries =>
    exact (subperm_setNames _).trans (keptEntries_subperm start entries)
  | .list items | .tuple items => exact keptItems_subperm start items
  | .null | .bool _ | .int _ | .float _ | .text _ | .member _ | .condition _ | .element ..
  | .choice _ | .criterion _ | .route _ | .handle _ | .foreign _ => exact .refl _

theorem keptItems_subperm (start : Nat) (items : List Value) :
    (keptItems start items).Subperm (List.range' start (itemsStagedLeaves items).length) := by
  match items with
  | [] => exact .refl _
  | item :: rest =>
    rw [keptItems, itemsStagedLeaves, List.length_append, ← List.range'_append_1]
    exact (keptLeaves_subperm start item).append (keptItems_subperm _ rest)

theorem keptEntries_subperm (start : Nat) (entries : List (Value × Value)) :
    ((keptEntries start entries).flatMap Prod.snd).Subperm
      (List.range' start (entriesStagedLeaves entries).length) := by
  match entries with
  | [] => exact .refl _
  | (key, value) :: rest =>
    rw [keptEntries, entriesStagedLeaves, List.length_append, ← List.range'_append_1,
      List.flatMap_cons]
    exact (keptLeaves_subperm start value).append (keptEntries_subperm _ rest)
end

mutual
/-- In every mapping the keys have different texts. -/
def KeysDiffer : Value → Prop
  | .mapping entries => (entries.map fun entry ↦ entry.1.display).Nodup ∧ EntriesKeysDiffer entries
  | .list items => ItemsKeysDiffer items
  | .tuple items => ItemsKeysDiffer items
  | _ => True

/-- In every mapping in the items the keys have different texts. -/
def ItemsKeysDiffer : List Value → Prop
  | [] => True
  | item :: rest => KeysDiffer item ∧ ItemsKeysDiffer rest

/-- In every mapping in the values the keys have different texts. -/
def EntriesKeysDiffer : List (Value × Value) → Prop
  | [] => True
  | (_, value) :: rest => KeysDiffer value ∧ EntriesKeysDiffer rest
end

private theorem keptEntries_names (start : Nat) (entries : List (Value × Value)) :
    (keptEntries start entries).map Prod.fst = entries.map fun entry ↦ entry.1.display := by
  induction entries generalizing start with
  | nil => rfl
  | cons entry rest ih => rw [keptEntries, List.map_cons, List.map_cons, ih]

mutual
/-- If no two keys have one text, all leaves are kept in their order. -/
theorem KeysDiffer.keptLeaves_eq (start : Nat) {value : Value} (h : value.KeysDiffer) :
    keptLeaves start value = List.range' start value.stagedLeaves.length := by
  match value with
  | .mapping entries =>
    rw [KeysDiffer, ← keptEntries_names start] at h
    rw [keptLeaves, setNames_of_nodup h.1]
    exact keptEntries_eq start h.2
  | .list items | .tuple items => exact keptItems_eq start h
  | .staged _ | .null | .bool _ | .int _ | .float _ | .text _ | .member _ | .condition _
  | .element .. | .choice _ | .criterion _ | .route _ | .handle _ | .foreign _ => rfl

theorem keptItems_eq (start : Nat) {items : List Value} (h : ItemsKeysDiffer items) :
    keptItems start items = List.range' start (itemsStagedLeaves items).length := by
  match items with
  | [] => rfl
  | item :: rest =>
    rw [ItemsKeysDiffer] at h
    rw [keptItems, itemsStagedLeaves, List.length_append, ← List.range'_append_1,
      h.1.keptLeaves_eq start, keptItems_eq _ h.2]

theorem keptEntries_eq (start : Nat) {entries : List (Value × Value)}
    (h : EntriesKeysDiffer entries) :
    (keptEntries start entries).flatMap Prod.snd =
      List.range' start (entriesStagedLeaves entries).length := by
  match entries with
  | [] => rfl
  | (key, value) :: rest =>
    rw [EntriesKeysDiffer] at h
    rw [keptEntries, entriesStagedLeaves, List.length_append, ← List.range'_append_1,
      List.flatMap_cons, h.1.keptLeaves_eq start, keptEntries_eq _ h.2]
end

/-! ## Filling the gaps of dumped data -/

/-- The function lists `xs` from `index` on. -/
def Lists {α : Type} (f : Nat → α) (index : Nat) (xs : List α) : Prop :=
  (List.range' index xs.length).map f = xs

private theorem lists_append {α : Type} {f : Nat → α} {index : Nat} {xs ys : List α} :
    Lists f index (xs ++ ys) ↔ Lists f index xs ∧ Lists f (index + xs.length) ys := by
  rw [Lists, List.length_append, ← List.range'_append_1, List.map_append]
  constructor
  · exact fun h ↦ List.append_inj h (by simp)
  · rintro ⟨hxs, hys⟩
    rw [hxs, hys]

theorem Lists.map {α β : Type} {f : Nat → α} {index : Nat} {xs : List α} (h : Lists f index xs)
    (g : α → β) : Lists (fun index ↦ g (f index)) index (xs.map g) := by
  rw [Lists] at h
  rw [Lists, List.length_map, ← Function.comp_def g f, ← List.map_map, h]

/-- Dumped data with its leaves, by their numbers, and what it becomes if `f` fills them. -/
structure Fitting (leaf : Nat → Staged) (f : Nat → Value) where
  labels : List Nat
  data : Value
  filled : Value
  leaves : data.stagedLeaves = labels.map leaf
  fill : ∀ g index, Lists g index (labels.map f) → data.fill g index = filled

namespace Fitting

variable {leaf : Nat → Staged} {f : Nat → Value}

private theorem itemsStagedLeaves_eq (fits : List (Fitting leaf f)) :
    itemsStagedLeaves (fits.map data) = (fits.flatMap labels).map leaf := by
  induction fits with
  | nil => rfl
  | cons fit rest ih =>
    rw [List.map_cons, itemsStagedLeaves, ih, fit.leaves, List.flatMap_cons, List.map_append]

private theorem fillItems_eq (fits : List (Fitting leaf f)) (g : Nat → Value) (index : Nat)
    (h : Lists g index ((fits.flatMap labels).map f)) :
    fillItems g index (fits.map data) = fits.map filled := by
  induction fits generalizing index with
  | nil => rfl
  | cons fit rest ih =>
    rw [List.flatMap_cons, List.map_append, lists_append, List.length_map] at h
    rw [List.map_cons, fillItems, fit.fill g index h.1, fit.leaves, List.length_map, ih _ h.2,
      List.map_cons]

/-- A sequence of data that fits. -/
def ofItems (fits : List (Fitting leaf f)) : Fitting leaf f where
  labels := fits.flatMap labels
  data := .list (fits.map data)
  filled := .list (fits.map filled)
  leaves := itemsStagedLeaves_eq fits
  fill g index h := by rw [Value.fill, fillItems_eq fits g index h]

private theorem entriesStagedLeaves_eq (fits : List (String × Fitting leaf f)) :
    entriesStagedLeaves (fits.map fun entry ↦ (.text entry.1, entry.2.data)) =
      (fits.flatMap fun entry ↦ entry.2.labels).map leaf := by
  induction fits with
  | nil => rfl
  | cons entry rest ih =>
    rw [List.map_cons, entriesStagedLeaves, ih, entry.2.leaves, List.flatMap_cons, List.map_append]

private theorem fillEntries_eq (fits : List (String × Fitting leaf f)) (g : Nat → Value)
    (index : Nat) (h : Lists g index ((fits.flatMap fun entry ↦ entry.2.labels).map f)) :
    fillEntries g index (fits.map fun entry ↦ (.text entry.1, entry.2.data)) =
      fits.map fun entry ↦ (.text entry.1, entry.2.filled) := by
  induction fits generalizing index with
  | nil => rfl
  | cons entry rest ih =>
    rw [List.flatMap_cons, List.map_append, lists_append, List.length_map] at h
    rw [List.map_cons, fillEntries, entry.2.fill g index h.1, entry.2.leaves, List.length_map,
      ih _ h.2, List.map_cons]

/-- A mapping with values that fit. -/
def ofEntries (fits : List (String × Fitting leaf f)) : Fitting leaf f where
  labels := fits.flatMap fun entry ↦ entry.2.labels
  data := .mapping (fits.map fun entry ↦ (.text entry.1, entry.2.data))
  filled := .mapping (fits.map fun entry ↦ (.text entry.1, entry.2.filled))
  leaves := by rw [stagedLeaves, entriesStagedLeaves_eq]
  fill g index h := by rw [Value.fill, fillEntries_eq fits g index h]

end Fitting

variable {leaf : Nat → Staged} {f : Nat → Value}

-- The three writers of dumped data, of its numbers and of what fills it are followed together, so
-- that merging keys is done once, on what they all are parts of.
mutual
theorem exists_fitting (hf : ∀ index, (f index).dumped = f index) (start : Nat) (value : Value)
    (h : Lists leaf start value.stagedLeaves) :
    ∃ fit : Fitting leaf f, fit.labels = keptLeaves start value ∧ fit.data = value.dumped ∧
      fit.filled = (value.fill f start).dumped := by
  match value with
  | .staged v =>
    refine ⟨⟨[start], .staged v, f start, h.symm, fun g index hg ↦ ?_⟩, rfl, rfl, (hf start).symm⟩
    exact List.singleton_inj.mp hg
  | .mapping entries =>
    obtain ⟨fits, hlabels, hdata, hfilled⟩ := exists_fittings_entries hf start entries h
    refine ⟨.ofEntries (setNames fits), ?_, ?_, ?_⟩
    · rw [keptLeaves, ← hlabels, setNames_map, List.flatMap_map]
      rfl
    · rw [dumped, ← hdata, setNames_map, Markdown.textDict, List.map_map]
      rfl
    · rw [Value.fill, dumped, ← hfilled, setNames_map, Markdown.textDict, List.map_map]
      rfl
  | .list items | .tuple items =>
    obtain ⟨fits, hlabels, hdata, hfilled⟩ := exists_fittings_items hf start items h
    refine ⟨.ofItems fits, hlabels, ?_, ?_⟩
    · rw [dumped, ← hdata]
      rfl
    · rw [Value.fill, dumped, ← hfilled]
      rfl
  | .null | .bool _ | .int _ | .float _ | .text _ | .member _ | .condition _ | .element ..
  | .choice _ | .criterion _ | .route _ | .handle _ | .foreign _ =>
    exact ⟨⟨[], _, _, rfl, fun _ _ _ ↦ rfl⟩, rfl, rfl, rfl⟩

theorem exists_fittings_items (hf : ∀ index, (f index).dumped = f index) (start : Nat)
    (items : List Value) (h : Lists leaf start (itemsStagedLeaves items)) :
    ∃ fits : List (Fitting leaf f), fits.flatMap Fitting.labels = keptItems start items ∧
      fits.map Fitting.data = dumpedItems items ∧
      fits.map Fitting.filled = dumpedItems (fillItems f start items) := by
  match items with
  | [] => exact ⟨[], rfl, rfl, rfl⟩
  | item :: rest =>
    rw [itemsStagedLeaves, lists_append] at h
    obtain ⟨fit, hlabels, hdata, hfilled⟩ := exists_fitting hf start item h.1
    obtain ⟨fits, hrestLabels, hrestData, hrestFilled⟩ := exists_fittings_items hf _ rest h.2
    refine ⟨fit :: fits, ?_, ?_, ?_⟩
    · rw [List.flatMap_cons, hlabels, hrestLabels, keptItems]
    · rw [List.map_cons, hdata, hrestData, dumpedItems]
    · rw [List.map_cons, hfilled, hrestFilled, fillItems, dumpedItems]

theorem exists_fittings_entries (hf : ∀ index, (f index).dumped = f index) (start : Nat)
    (entries : List (Value × Value)) (h : Lists leaf start (entriesStagedLeaves entries)) :
    ∃ fits : List (String × Fitting leaf f),
      (fits.map fun entry ↦ (entry.1, entry.2.labels)) = keptEntries start entries ∧
      (fits.map fun entry ↦ (entry.1, entry.2.data)) = dumpedEntries entries ∧
      (fits.map fun entry ↦ (entry.1, entry.2.filled)) =
        dumpedEntries (fillEntries f start entries) := by
  match entries with
  | [] => exact ⟨[], rfl, rfl, rfl⟩
  | (key, value) :: rest =>
    rw [entriesStagedLeaves, lists_append] at h
    obtain ⟨fit, hlabels, hdata, hfilled⟩ := exists_fitting hf start value h.1
    obtain ⟨fits, hrestLabels, hrestData, hrestFilled⟩ := exists_fittings_entries hf _ rest h.2
    refine ⟨(key.display, fit) :: fits, ?_, ?_, ?_⟩
    · rw [List.map_cons, hlabels, hrestLabels, keptEntries]
    · rw [List.map_cons, hdata, hrestData, dumpedEntries]
    · rw [List.map_cons, hfilled, hrestFilled, fillEntries, dumpedEntries]
end

theorem lists_getD {α : Type} (xs : List α) (default : α) :
    Lists (fun index ↦ xs.getD index default) 0 xs := by
  refine List.ext_getElem (by simp) fun index _ hindex ↦ ?_
  simp [List.getElem?_eq_getElem hindex]

/-- The leaves of dumped data are the kept ones. -/
theorem stagedLeaves_dumped {start : Nat} {value : Value}
    (h : Lists leaf start value.stagedLeaves) :
    value.dumped.stagedLeaves = (keptLeaves start value).map leaf := by
  obtain ⟨fit, hlabels, hdata, -⟩ :=
    exists_fitting (f := fun _ ↦ .null) (fun _ ↦ rfl) start value h
  rw [← hdata, ← hlabels, fit.leaves]

/-- Filling the leaves of data and dumping it is dumping it and filling the gaps of the kept
leaves. -/
theorem dumped_fill (hf : ∀ index, (f index).dumped = f index) {value : Value} {g : Nat → Value}
    (hg : Lists g 0 ((keptLeaves 0 value).map f)) :
    (value.fill f 0).dumped = value.dumped.fill g 0 := by
  obtain ⟨fit, hlabels, hdata, hfilled⟩ :=
    exists_fitting hf 0 value (lists_getD value.stagedLeaves ⟨"", []⟩)
  rw [← hfilled, ← hdata, fit.fill g 0 (by rwa [hlabels])]

/-! ## Marked data -/

mutual
/-- Marked data is dumped data with markers at its leaves. -/
theorem mark_fst (start : Nat) (value : Value) :
    (Markdown.mark start value).1 =
      (value.fill (fun index ↦ .text (Markdown.marker index)) start).dumped := by
  match value with
  | .mapping entries => rw [Markdown.mark, markEntries_fst, Value.fill, dumped]
  | .list items | .tuple items => rw [Markdown.mark, markItems_fst, Value.fill, dumped]
  | .staged _ | .null | .bool _ | .int _ | .float _ | .text _ | .member _ | .condition _
  | .element .. | .choice _ | .criterion _ | .route _ | .handle _ | .foreign _ => rfl

theorem markItems_fst (start : Nat) (items : List Value) :
    (Markdown.markItems start items).1 =
      dumpedItems (fillItems (fun index ↦ .text (Markdown.marker index)) start items) := by
  match items with
  | [] => rfl
  | item :: rest =>
    rw [Markdown.markItems, fillItems, dumpedItems, mark_fst, markItems_fst, Markdown.mark_snd]

theorem markEntries_fst (start : Nat) (entries : List (Value × Value)) :
    (Markdown.markEntries start entries).1 =
      dumpedEntries (fillEntries (fun index ↦ .text (Markdown.marker index)) start entries) := by
  match entries with
  | [] => rfl
  | (key, value) :: rest =>
    rw [Markdown.markEntries, fillEntries, dumpedEntries, mark_fst, markEntries_fst,
      Markdown.mark_snd]
end

/-! ## Composite data -/

/-- A scalar that can be a key, without NUL. -/
def IsKey : Value → Prop
  | .null | .bool _ | .int _ | .float _ => True
  | .text s => '\x00' ∉ s.toList
  | .member m => '\x00' ∉ m.display.toList
  | _ => False

mutual
/-- Scalars and staged values in sequences and mappings, with scalars as keys. No text holds the NUL
character. -/
def IsComposite : Value → Prop
  | .null | .bool _ | .int _ | .float _ | .staged _ => True
  | .text s => '\x00' ∉ s.toList
  | .member m => '\x00' ∉ m.text.toList
  | .list items => AreComposite items
  | .tuple items => AreComposite items
  | .mapping entries => HasComposite entries
  | _ => False

/-- All items are composite data. -/
def AreComposite : List Value → Prop
  | [] => True
  | item :: rest => IsComposite item ∧ AreComposite rest

/-- All keys are scalars and all values composite data. -/
def HasComposite : List (Value × Value) → Prop
  | [] => True
  | (key, value) :: rest => IsKey key ∧ IsComposite value ∧ HasComposite rest
end

private theorem nul_notMem_of_number {text : List Char} (h : text.all isNumberChar = true) :
    '\x00' ∉ text := by
  intro hmem
  exact absurd (List.all_eq_true.mp h _ hmem) (by decide)

private theorem IsKey.nul_notMem_display {key : Value} (h : key.IsKey) :
    '\x00' ∉ key.display.toList := by
  match key with
  | .null => decide
  | .bool b => cases b <;> decide
  | .int n => exact nul_notMem_of_number (all_isNumberChar_repr n)
  | .float x => exact nul_notMem_of_number x.all_isNumberChar_literal
  | .text s => exact h
  | .member m => exact h

private theorem hasJson_of_forall {entries : List (String × Value)}
    (h : ∀ entry ∈ entries, '\x00' ∉ entry.1.toList ∧ entry.2.IsJson) :
    HasJson (entries.map fun entry ↦ (.text entry.1, entry.2)) := by
  induction entries with
  | nil => trivial
  | cons entry rest ih =>
    obtain ⟨hentry, hrest⟩ := List.forall_mem_cons.mp h
    rw [List.map_cons, HasJson]
    exact ⟨⟨_, rfl, hentry.1⟩, hentry.2, ih hrest⟩

mutual
/-- Dumped data is JSON data. -/
theorem IsComposite.isJson_dumped {value : Value} (h : value.IsComposite) :
    value.dumped.IsJson := by
  match value with
  | .mapping entries =>
    rw [IsComposite] at h
    rw [dumped, Markdown.textDict, IsJson, List.map_map]
    constructor
    · have hnames := nodup_setNames (dumpedEntries entries)
      have hinjective : Function.Injective Value.text := fun _ _ ↦ Value.text.inj
      rw [← List.nodup_map_iff hinjective, List.map_map] at hnames
      exact hnames
    · exact hasJson_of_forall fun entry hentry ↦ isJson_dumpedEntries h entry (mem_setNames hentry)
  | .list items | .tuple items => exact areJson_dumpedItems h
  | .staged _ | .null | .bool _ | .int _ | .float _ => trivial
  | .text s => exact h
  | .member m => exact h

theorem areJson_dumpedItems {items : List Value} (h : AreComposite items) :
    AreJson (dumpedItems items) := by
  match items with
  | [] => trivial
  | item :: rest =>
    rw [AreComposite] at h
    rw [dumpedItems, AreJson]
    exact ⟨h.1.isJson_dumped, areJson_dumpedItems h.2⟩

theorem isJson_dumpedEntries {entries : List (Value × Value)} (h : HasComposite entries) :
    ∀ entry ∈ dumpedEntries entries, '\x00' ∉ entry.1.toList ∧ entry.2.IsJson := by
  match entries with
  | [] => exact List.forall_mem_nil _
  | (key, value) :: rest =>
    rw [HasComposite] at h
    rw [dumpedEntries, List.forall_mem_cons]
    exact ⟨⟨h.1.nul_notMem_display, h.2.1.isJson_dumped⟩, isJson_dumpedEntries h.2.2⟩
end

end Value

end Runbook
