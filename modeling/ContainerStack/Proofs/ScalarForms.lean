import ContainerStack.Proofs.Writing

/-!
**The written forms of strings, decoded.**

A string between double quotes holds no control character and no escapes but six; it is decoded to
the string. A string that is written without quotes is neither cut short nor taken for something
else where it stands behind a key or behind a dash. A list between brackets is decoded item by item.

* `ReadsOnLine`: what a text is read as behind a key or behind a dash, wherever in a block.
* `scalar_forms_decode`: the three forms of strings and lists.
-/

namespace ContainerStack.Yaml.Reading

/-- Behind a key or behind a dash, wherever the line stands in a block, the text is read as a
value. -/
def ReadsOnLine (written : String) (value : Tree) : Prop :=
  ∀ key column below, Plain key.toList → Follow column below →
    lineFrom? column (key ++ ": " ++ written).toList below =
        some ((column, .entry key value) :: below) ∧
      lineFrom? column ("- " ++ written).toList below = some ((column, .item value) :: below)

theorem IsScalar.readsOnLine {written : String} {value : Tree}
    (isScalar : IsScalar written value) : ReadsOnLine written value := by
  intro key column below plain follow
  constructor
  · rw [String.toList_append, String.toList_append, List.append_assoc]
    exact lineFrom?_entry (keyOf_plain plain) isScalar.read follow
  · rw [String.toList_append]
    exact lineFrom?_scalarItem isScalar.read follow

/-- **What is written for strings and lists is decoded to them.** A string between double quotes
holds no control character, is put together of the forms of its characters, and is read as the
string. So is a string in the form that the writer chooses, behind every key and every dash; it
stays on its line and is neither a map, a list or a comment, nor anything that begins with an
indicator. A list between brackets is read as the list of its strings. -/
theorem scalar_forms_decode :
    (∀ value : String, Text.hasControl (Scalar.quote value) = false ∧
      (∃ forms, (Scalar.quote value).toList = '"' :: (forms.flatten ++ ['"']) ∧
        List.Forall₂ Escaped forms value.toList) ∧
      scalarFrom? (Scalar.quote value).toList = some (.text value, [])) ∧
    (∀ value : String, onOneLine (Scalar.write value).toList = true ∧
      ReadsOnLine (Scalar.quote value) (.text value) ∧
      ReadsOnLine (Scalar.write value) (.text value)) ∧
    (∀ items : List String,
      scalarFrom? (Scalar.flowList items).toList = some (.sequence (items.map .text), []) ∧
      ReadsOnLine (Scalar.flowList items) (.sequence (items.map .text))) := by
  refine ⟨fun value => ⟨noControl_quote value, ?forms, (IsScalar.quote value).read⟩,
    fun value => ⟨onOneLine_write value, (IsScalar.quote value).readsOnLine,
      (IsScalar.write value).readsOnLine⟩,
    fun items => ⟨(IsScalar.flowList items).read, (IsScalar.flowList items).readsOnLine⟩⟩
  case forms =>
    refine ⟨value.toList.map fun char => (Scalar.quoteChar char).toList, ?_, ?_⟩
    · rw [toList_quote, quotedBody, List.flatMap_def]
    · rw [List.forall₂_map_left_iff]
      exact List.forall₂_same.mpr fun char _ => escaped_quoteChar char

theorem scalar_forms_decode_awkward :
    Plain "command".toList ∧ Follow 4 [] ∧
      Scalar.write "a#b:c" = "a#b:c" ∧ Scalar.write "a: b #\x07" = "\"a: b #\\x07\"" ∧
      lineFrom? 4 ("command" ++ ": " ++ Scalar.write "a#b:c").toList [] =
        some [(4, .entry "command" (.text "a#b:c"))] ∧
      lineFrom? 4 ("- " ++ Scalar.write "a: b #\x07").toList [] =
        some [(4, .item (.text "a: b #\x07"))] := by
  have plain : Plain "command".toList := by decide
  have bare := (scalar_forms_decode.2.1 "a#b:c").2.2 "command" 4 [] plain rfl
  have awkward := (scalar_forms_decode.2.1 "a: b #\x07").2.2 "command" 4 [] plain rfl
  exact ⟨plain, rfl, rfl, rfl, bare.1, awkward.2⟩

end ContainerStack.Yaml.Reading
