import TagGraph.Proofs.DocumentReading
import TagGraph.Proofs.JsonReading
import TagGraph.Proofs.ShortestPacking

/-!
Models travel without loss, as JSON text or as bytes, with the fields of structures named or in
order. Each form is read as the model that it was written from, so no two models are written alike.
As bytes this holds of all models whose texts and lists have sizes that a header can say, and fails
where a name is longer.
-/

namespace TagGraph.Model

def json (model : Model) : String := JsonText.render (model.toDocument .named)

def ofJson? (source : String) : Option Model := (JsonText.read? source).bind ofDocument?

def packed (layout : Document.Layout) (model : Model) : List UInt8 :=
  Packed.pack (model.toDocument layout)

def ofPacked? (bytes : List UInt8) : Option Model := (Packed.unpack? bytes).bind ofDocument?

theorem ofJson?_json (model : Model) : ofJson? model.json = some model := by
  have hfits : model.Fits fun _ => True := model.fits_of_forall fun _ => trivial
  have hwithin : (model.toDocument .named : Document String).Within (fun _ => True) 8 :=
    model.within_toDocument (fun _ _ => trivial) .named hfits
  rw [ofJson?, json, JsonText.read?_render hwithin, Option.bind_some,
    ofDocument?_toDocument]

theorem ofPacked?_packed {model : Model} (h : model.Fits Packed.Announced)
    (layout : Document.Layout) : ofPacked? (model.packed layout) = some model := by
  have hsmall : ∀ size < 32, Packed.Announced size := fun size hsize =>
    Nat.lt_trans hsize (by decide)
  have hwithin : (model.toDocument layout : Document Empty).Within Packed.Announced
      Packed.nestingLimit := model.within_toDocument hsmall layout h
  rw [ofPacked?, packed, Packed.unpack?_pack hwithin, Option.bind_some, ofDocument?_toDocument]

/-- Every form of a model is read as that model, so no other model has the same form. No bytes that
say the same are fewer than those it is packed to. -/
theorem transport_lossless (model : Model) :
    (ofJson? model.json = some model ∧ ∀ other : Model, other.json = model.json → other = model) ∧
    ∀ layout, (model.Fits Packed.Announced → ofPacked? (model.packed layout) = some model ∧
        ∀ other : Model, other.Fits Packed.Announced →
          other.packed layout = model.packed layout → other = model) ∧
      ∀ bytes, Packed.unpack? bytes = some (model.toDocument layout) →
        (model.packed layout).length ≤ bytes.length := by
  refine ⟨⟨ofJson?_json model, ?_⟩, fun layout => ⟨?_, ?_⟩⟩
  · intro other hsame
    have hother := ofJson?_json other
    rw [hsame, ofJson?_json model] at hother
    exact (Option.some.inj hother).symm
  · intro hfits
    refine ⟨ofPacked?_packed hfits layout, ?_⟩
    intro other hother hsame
    have hread := ofPacked?_packed hother layout
    rw [hsame, ofPacked?_packed hfits layout] at hread
    exact (Option.some.inj hread).symm
  · intro bytes hbytes
    exact Packed.length_pack_le_of_unpack? hbytes

/-- A concept, an interaction and a world with a name that is not plain ASCII. -/
def linked : Model :=
  ⟨[⟨"Knöchel", ⟨["\"a\"", "b"], by decide⟩, .empty⟩],
    [⟨false, [.any], some [.tagSet ⟨["b"], true, some "next"⟩],
      [.nothing, .bind ⟨"next", ⟨.other, none⟩, .this⟩]⟩],
    [⟨"w", none, [⟨"Knöchel", some "k"⟩], [⟨⟨"k", "next"⟩, ⟨"k", "last"⟩⟩]⟩]⟩

theorem linked_fits : linked.Fits Packed.Announced := by
  refine ⟨⟨by decide, ?_⟩, ⟨by decide, ?_⟩, ⟨by decide, ?_⟩⟩
  · exact List.forall_mem_singleton.mpr ⟨by decide, by decide, by decide⟩
  · refine List.forall_mem_singleton.mpr ⟨⟨by decide, ?_⟩, ?_, ⟨by decide, ?_⟩⟩
    · exact List.forall_mem_singleton.mpr trivial
    · rintro _ ⟨⟩
      exact ⟨by decide, List.forall_mem_singleton.mpr ⟨by decide, by decide⟩⟩
    · simp only [List.forall_mem_cons, List.not_mem_nil, false_implies, implies_true, and_true]
      exact ⟨trivial, by decide, nofun, nofun⟩
  · refine List.forall_mem_singleton.mpr ⟨by decide, nofun, ⟨by decide, ?_⟩, ⟨by decide, ?_⟩⟩
    · exact List.forall_mem_singleton.mpr ⟨by decide, by decide⟩
    · exact List.forall_mem_singleton.mpr ⟨⟨by decide, by decide⟩, ⟨by decide, by decide⟩⟩

/-- It comes back in every form, and none of its forms is that of the empty model. -/
theorem transport_lossless_linked : linked.Fits Packed.Announced ∧ empty.Fits Packed.Announced ∧
    ofJson? linked.json = some linked ∧ empty.json ≠ linked.json ∧
    ∀ layout, ofPacked? (linked.packed layout) = some linked ∧
      empty.packed layout ≠ linked.packed layout := by
  have hempty : empty.Fits Packed.Announced := ⟨⟨by decide, nofun⟩, ⟨by decide, nofun⟩,
    ⟨by decide, nofun⟩⟩
  obtain ⟨⟨hjson, hjsonOther⟩, hpacked⟩ := transport_lossless linked
  refine ⟨linked_fits, hempty, hjson, ?_, fun layout => ⟨((hpacked layout).1 linked_fits).1, ?_⟩⟩
  · intro hsame
    cases hjsonOther empty hsame
  · intro hsame
    cases ((hpacked layout).1 linked_fits).2 empty hempty hsame

section overflow

open Packed

/-- A model of one concept, with a name of as many letters. -/
def named (count : Nat) : Model := ⟨[⟨letters count, .empty, .empty⟩], [], []⟩

theorem packed_named (count : Nat) :
    (∃ rest, (named count).packed .named =
      recordHeader 3 ++ (packText "concepts" ++ (listHeader 1 ++
        (recordHeader 3 ++ (packText "name" ++ (packText (letters count) ++ rest)))))) ∧
    ∃ rest, (named count).packed .positional =
      listHeader 3 ++ (listHeader 1 ++ (listHeader 3 ++ (packText (letters count) ++ rest))) := by
  constructor <;>
    refine ⟨_, by
      simp only [packed, toDocument, Document.ofFields, named, List.map_cons, List.map_nil,
        fieldNames, Concept.toDocument, Concept.fieldNames, List.zip_cons_cons, List.zip_nil_right,
        pack, packItems, packFields, List.length_cons, List.length_nil, List.append_assoc]
      rfl⟩

/-- When the size of the name overflows, a letter of it stands where the reader looks for the tags
of the concept, and begins nothing. -/
theorem unpackWithin?_packed_named (depth count : Nat) (hcount : 0 < count)
    (hheader : textHeader count = [0xdb, 0, 0, 0, 0]) (layout : Document.Layout) :
    unpackWithin? (depth + 4) ((named count).packed layout) = none := by
  have hletter : ∀ more, shape? (0x61 :: more) = none := fun _ => rfl
  have hone : Announced 1 := by decide
  have hthree : Announced 3 := by decide
  obtain ⟨⟨rest, hnamed⟩, rest', hpositional⟩ := packed_named count
  cases layout with
  | named =>
    obtain ⟨more, hmore⟩ := unpackWithin?_letters depth rest hcount hheader
    have hconcept : items? (field? (unpackWithin? (depth + 1))) 3
        (packText "name" ++ (packText (letters count) ++ rest)) = none := by
      rw [items?, field?_packText (by decide), hmore]
      simp [items?, field?, text?, hletter]
    have hconcepts := unpackWithin?_list_eq_none hone
      (items?_eq_none 0 (unpackWithin?_record_eq_none hthree hconcept))
    rw [hnamed]
    refine unpackWithin?_record_eq_none hthree (items?_eq_none 2 ?_)
    rw [field?_packText (by decide), hconcepts]
    rfl
  | positional =>
    obtain ⟨more, hmore⟩ := unpackWithin?_letters depth rest' hcount hheader
    have hconcept : items? (unpackWithin? (depth + 1)) 3
        (packText (letters count) ++ rest') = none := by
      rw [items?, hmore]
      simp [items?, unpackWithin?, hletter]
    have hconcepts := unpackWithin?_list_eq_none hone
      (items?_eq_none 0 (unpackWithin?_list_eq_none hthree hconcept))
    rw [hpositional]
    exact unpackWithin?_list_eq_none hthree (items?_eq_none 2 hconcepts)

/-- A name of `2 ^ 32` letters does not come back from bytes. -/
theorem ofPacked?_named_of_overflow :
    ofPacked? ((named (2 ^ 32)).packed .named) ≠ some (named (2 ^ 32)) ∧
      ofPacked? ((named (2 ^ 32)).packed .positional) ≠ some (named (2 ^ 32)) := by
  have hnone : ∀ layout, ofPacked? ((named (2 ^ 32)).packed layout) = none := by
    intro layout
    have hunpack := unpackWithin?_packed_named 1020 (2 ^ 32) (by decide) (by decide) layout
    rw [ofPacked?, unpack?, nestingLimit, hunpack]
    rfl
  rw [hnone, hnone]
  exact ⟨(Option.some_ne_none _).symm, (Option.some_ne_none _).symm⟩

end overflow

end TagGraph.Model
