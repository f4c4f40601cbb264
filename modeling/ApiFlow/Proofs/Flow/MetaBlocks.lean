import ApiFlow.Proofs.Flow.Sequel
import ApiFlow.Proofs.Template.Open

/-!
# Metadata in several blocks

Inside of a block the last directive of a key counts, and between blocks the last field that is not empty.  The two rules
come to the same for directives with a value, so that these may stand in one block or in several.

* `IsHollow` : a directive that empties a field.
* `merge_apply`, `merge_foldl` : applying directives behind metadata, or to metadata that are joined afterwards.
* `ofBlock_seam` : the metadata of two texts with a line feed between them.
* `foldlM_block_info` : the metadata of a document are joined block by block.
* `metadata_compose` : joining metadata, and metadata that are divided into blocks.
-/

set_option autoImplicit false

namespace ApiFlow.Flow

/-- The keys whose value is a field as it stands. -/
def textKeys : List Text := ["flow", "name", "version", "env"]

/-- A directive without a value, or one for tags that gives none: it empties the field that it sets. -/
def IsHollow (entry : Text × Text) : Prop :=
  (entry.1 ∈ textKeys ∧ entry.2 = []) ∨ (entry.1 = "tags".toList ∧ commaFields entry.2 = [])

instance (entry : Text × Text) : Decidable (IsHollow entry) := by
  unfold IsHollow
  infer_instance

/-- Whether metadata are read from a block. -/
def Block.isMeta (b : Block) : Bool := b.kind = "flow".toList && isMetaBlock b.raw

/-- The texts of the blocks that metadata are read from, in order. -/
def metaTextsOf (found : List Block) : List Text := (found.filter Block.isMeta).map (·.raw)

/-- The texts of a document that its metadata are read from. -/
def metaTexts (content : Text) : List Text := metaTextsOf (blocks content)

/-! ## One directive -/

theorem orElse_of_ne_nil {later : Text} (some : later ≠ []) (earlier : Text) : orElse earlier later = later := by
  rw [orElse, if_neg (by simpa using some)]

/-- A value with one tag at least gives tags. -/
theorem sort_unique_ne_nil {tags : List Text} (some : tags ≠ []) : Text.sort (Text.unique tags) ≠ [] := by
  obtain ⟨tag, member⟩ := List.exists_mem_of_ne_nil tags some
  have sorted : tag ∈ Text.sort (Text.unique tags) := List.mem_mergeSort.mpr (Text.mem_unique.mpr member)
  exact List.ne_nil_of_mem sorted

/-- **A directive with a value** does the same to joined metadata and to the later ones before they are joined. -/
theorem merge_apply (m : Meta) {n : Meta} (distinct : (Table.names n.headers).Nodup) {entry : Text × Text}
    (filled : ¬ IsHollow entry) : (m.merge n).apply entry = m.merge (n.apply entry) := by
  obtain ⟨key, value⟩ := entry
  have text (listed : key ∈ textKeys) : value ≠ [] := fun none => filled (.inl ⟨listed, none⟩)
  have field {key' : Text} (listed : key' ∈ textKeys) (here : key = key') (earlier : Text) :
      orElse earlier value = value := orElse_of_ne_nil (text (here ▸ listed)) earlier
  unfold Meta.apply
  dsimp only
  split
  · rename_i flow
    have id : (if (inlineValue value "id").isEmpty then value else inlineValue value "id") ≠ [] := by
      split
      · exact text (flow ▸ by decide)
      · rename_i some
        simpa using some
    simp only [Meta.merge, orElse_of_ne_nil id]
  split
  · rename_i name
    simp [Meta.merge, field (by decide) name]
  split
  · rename_i version
    simp [Meta.merge, field (by decide) version]
  split
  · rename_i env
    simp [Meta.merge, field (by decide) env]
  split
  · rename_i tags
    have some : commaFields value ≠ [] := fun none => filled (.inr ⟨tags, none⟩)
    simp [Meta.merge, sort_unique_ne_nil some]
  split
  · split
    · split
      · rfl
      · simp [Meta.merge, Table.setAll_set m.headers distinct]
    · rfl
  · rfl

/-- **Directives with values** can be applied before or after metadata are joined. -/
theorem merge_foldl (m : Meta) {n : Meta} (distinct : (Table.names n.headers).Nodup) {entries : List (Text × Text)}
    (filled : ∀ entry ∈ entries, ¬ IsHollow entry) :
    entries.foldl Meta.apply (m.merge n) = m.merge (entries.foldl Meta.apply n) := by
  induction entries generalizing n with
  | nil => rfl
  | cons entry entries ih =>
      obtain ⟨here, rest⟩ := List.forall_mem_cons.mp filled
      rw [List.foldl_cons, List.foldl_cons, merge_apply m distinct here, ih (nodup_headers_apply distinct entry) rest]

/-! ## Blocks of metadata -/

theorem directives_seam (a b : Text) : directives (a ++ '\n' :: b) = directives a ++ directives b := by
  rw [directives, Text.splitAt_append_mark]
  simp only [directives, List.map_append, List.filter_append]

/-- **The metadata of two texts with a line feed between them** are those of the first joined with those of the second,
if the second empties no field. -/
theorem ofBlock_seam (a : Text) {b : Text} (filled : ∀ entry ∈ directives b, ¬ IsHollow entry) :
    Meta.ofBlock (a ++ '\n' :: b) = (Meta.ofBlock a).merge (Meta.ofBlock b) := by
  have empty : (Table.names ({} : Meta).headers).Nodup := List.nodup_nil
  calc Meta.ofBlock (a ++ '\n' :: b)
      = (directives b).foldl Meta.apply (Meta.ofBlock a) := by
        rw [Meta.ofBlock, directives_seam, List.foldl_append, Meta.ofBlock]
    _ = (directives b).foldl Meta.apply ((Meta.ofBlock a).merge {}) := by rw [merge_empty]
    _ = (Meta.ofBlock a).merge (Meta.ofBlock b) := merge_foldl (Meta.ofBlock a) empty filled

/-- The metadata of blocks, joined one after the other. -/
def joined (m : Meta) (raws : List Text) : Meta := raws.foldl (fun m raw => m.merge (Meta.ofBlock raw)) m

/-- **Blocks that empty no field** are joined to what their directives give one after the other. -/
theorem joined_eq_foldl (m : Meta) {raws : List Text}
    (filled : ∀ entry ∈ raws.flatMap directives, ¬ IsHollow entry) :
    joined m raws = (raws.flatMap directives).foldl Meta.apply m := by
  have empty : (Table.names ({} : Meta).headers).Nodup := List.nodup_nil
  induction raws generalizing m with
  | nil => rfl
  | cons raw raws ih =>
      rw [List.flatMap_cons] at filled ⊢
      obtain ⟨here, rest⟩ := List.forall_mem_append.mp filled
      have first : (directives raw).foldl Meta.apply m = m.merge (Meta.ofBlock raw) := by
        rw [← merge_empty m, merge_foldl m empty here, merge_empty]
        rfl
      rw [List.foldl_append, first, ← ih (m.merge (Meta.ofBlock raw)) rest]
      rfl

/-- The directives of joined texts are those of the texts. -/
theorem directives_join (raws : List Text) : directives (Text.join ['\n'] raws) = raws.flatMap directives := by
  induction raws with
  | nil => rfl
  | cons raw raws ih =>
      by_cases last : raws = []
      · subst last
        exact (List.append_nil _).symm
      · rw [Text.join_cons _ _ last, List.singleton_append, directives_seam, ih, List.flatMap_cons]

/-! ## Documents -/

theorem metaTextsOf_append (first second : List Block) :
    metaTextsOf (first ++ second) = metaTextsOf first ++ metaTextsOf second := by
  rw [metaTextsOf, List.filter_append, List.map_append, metaTextsOf, metaTextsOf]

theorem metaTextsOf_singleton (b : Block) : metaTextsOf [b] = if b.isMeta then [b.raw] else [] := by
  rw [metaTextsOf, List.filter_singleton]
  cases b.isMeta <;> rfl

theorem block_info {r r' : Reading} {b : Block} (read : r.block b = .ok r') :
    r'.document.info = joined r.document.info (metaTextsOf [b]) := by
  rw [metaTextsOf_singleton, Block.isMeta]
  unfold Reading.block at read
  split at read
  · rename_i flow
    split at read <;> rename_i content <;> cases read
    · rw [if_pos (by simp only [flow, content]; decide)]
      rfl
    · rw [if_neg (by simp only [content, Bool.and_false]; decide)]
      rfl
  · rename_i other
    rw [if_neg (by simp only [other, decide_false, Bool.false_and]; decide)]
    split at read
    · split at read <;> cases read
      rfl
    · split at read
      · cases read
        unfold Reading.addEdge
        split <;> rfl
      · split at read <;> cases read <;> rfl

/-- The metadata of blocks are joined in their order. -/
theorem foldlM_block_info {found : List Block} {r r' : Reading} (read : found.foldlM Reading.block r = .ok r') :
    r'.document.info = joined r.document.info (metaTextsOf found) := by
  induction found generalizing r with
  | nil =>
      cases read
      rfl
  | cons b found ih =>
      obtain ⟨next, first, rest⟩ := foldlM_cons_ok_iff.mp read
      have texts : metaTextsOf (b :: found) = metaTextsOf [b] ++ metaTextsOf found := metaTextsOf_append [b] found
      rw [ih rest, block_info first, texts]
      exact List.foldl_append.symm

/-- **The metadata of a document** are those of its blocks, joined in their order. -/
theorem ofText_info {content : Text} {r : Reading} (read : Reading.ofText content = .ok r) :
    r.document.info = joined {} (metaTexts content) := by
  obtain ⟨own, folded, rfl⟩ := ofText_ok_iff.mp read
  exact foldlM_block_info folded

/-- **Metadata compose.**  Joining is associative, and empty metadata change nothing on either side, where each name stands
once among the headers, as it does in a table that was written.  Where the second of two texts empties no field, the two
give the same one below the other and joined; so what such directives give to a document does not depend on how they are
divided into blocks. -/
theorem metadata_compose :
    (∀ first second third : Meta, (Table.names second.headers).Nodup →
        (first.merge second).merge third = first.merge (second.merge third)) ∧
      (∀ m : Meta, (Table.names m.headers).Nodup → ({} : Meta).merge m = m ∧ m.merge {} = m) ∧
      (∀ a b : Text, (∀ entry ∈ directives b, ¬ IsHollow entry) →
        Meta.ofBlock (a ++ '\n' :: b) = (Meta.ofBlock a).merge (Meta.ofBlock b)) ∧
      (∀ content r, Reading.ofText content = .ok r →
        (∀ entry ∈ (metaTexts content).flatMap directives, ¬ IsHollow entry) →
        r.document.info = Meta.ofBlock (Text.join ['\n'] (metaTexts content))) ∧
      ∀ content content' r r', Reading.ofText content = .ok r → Reading.ofText content' = .ok r' →
        (∀ entry ∈ (metaTexts content).flatMap directives, ¬ IsHollow entry) →
        (metaTexts content).flatMap directives = (metaTexts content').flatMap directives →
        r.document.info = r'.document.info := by
  refine ⟨fun first second third distinct => merge_assoc first distinct third,
    fun m distinct => ⟨merge_first distinct, merge_empty m⟩, fun a b filled => ofBlock_seam a filled,
    fun content r read filled => ?_, fun content content' r r' read read' filled same => ?_⟩
  · rw [ofText_info read, joined_eq_foldl {} filled, Meta.ofBlock, directives_join]
  · rw [ofText_info read, ofText_info read', joined_eq_foldl {} filled, joined_eq_foldl {} (same ▸ filled), same]

/-- A block with two directives for its name and two for a header, and one for tags. -/
def undivided : Text := "~~~flow\n@name a\n@tags x\n@header H: 1\n@name b\n@header H: 2\n~~~\n"

/-- The same directives in two blocks, with a comment between them. -/
def divided : Text := "~~~flow\n@name a\n@tags x\n@header H: 1\n# more\n~~~\n~~~flow\n@name b\n@header H: 2\n~~~\n"

/-- The two documents have the same metadata. -/
theorem metadata_compose_divided :
    (metaTexts undivided).flatMap directives = (metaTexts divided).flatMap directives ∧
      (metaTexts divided).length = 2 ∧
      ∃ r r', Reading.ofText undivided = .ok r ∧ Reading.ofText divided = .ok r' ∧
        r.document.info = r'.document.info := by
  have same : (metaTexts undivided).flatMap directives = (metaTexts divided).flatMap directives := by decide +kernel
  have filled : ∀ entry ∈ (metaTexts undivided).flatMap directives, ¬ IsHollow entry := by decide +kernel
  have readable : (Reading.ofText undivided).toBool = true ∧ (Reading.ofText divided).toBool = true := by
    decide +kernel
  cases read : Reading.ofText undivided with
  | error e =>
      rw [read] at readable
      cases readable.1
  | ok r =>
      cases read' : Reading.ofText divided with
      | error e =>
          rw [read'] at readable
          cases readable.2
      | ok r' =>
          obtain ⟨-, -, -, -, alike⟩ := metadata_compose
          exact ⟨same, by decide +kernel, r, r', rfl, rfl, alike _ _ r r' read read' filled same⟩

end ApiFlow.Flow
