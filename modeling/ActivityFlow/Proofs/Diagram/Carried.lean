import ActivityFlow.Proofs.Action.Descriptor
import ActivityFlow.Proofs.Diagram.LeadingObject
import ActivityFlow.Proofs.Diagram.Reading
import ActivityFlow.Proofs.Diagram.Table

/-!
# What the nodes of a diagram carry

Two readers look at what stands on a node.  The one that splits notes decides what is metadata and
what is prose, and the one that reads descriptors looks for the action in the metadata or, where
there is none, in the prose.  For a diagram the second look never finds anything: prose that reads
as an object would have been metadata, and prose with a stereotype behind it does not end with a
brace.

So a node carries its data and its prose apart (`Carried`), under any number of notes and
stereotypes in any order, and its descriptor is the one of its metadata (`read_agreesOnMetadata`).
-/

namespace ActivityFlow

namespace Text

/-- A last character that is not blank stays the last one. -/
lemma getLast?_trim_concat (cs : List Char) {c : Char} (h : isBlank c = false) :
    (trim (cs ++ [c])).getLast? = some c := by
  have hskip : ∃ front, skipBlank (cs ++ [c]) = front ++ [c] := by
    induction cs with
    | nil => exact ⟨[], skipBlank_of_head_not_blank [] h⟩
    | cons d cs ih =>
        cases hd : isBlank d with
        | true => rwa [List.cons_append, skipBlank_cons_of_blank _ hd]
        | false => exact ⟨d :: cs, skipBlank_of_head_not_blank (cs ++ [c]) hd⟩
  obtain ⟨front, hfront⟩ := hskip
  rw [trim, hfront, dropBlankEnd_eq_self (by simpa using h), List.getLast?_concat]

end Text

/-! ## Texts of descriptors -/

namespace Descriptor

/-- A text with a brace at either end is read as it stands. -/
lemma read?_of_isBraced {text : String} (h : isBraced text.toList = true) :
    read? text = (Json.read? text.toList).bind ofJson? := by
  have htrim : Text.trim text.toList = text.toList := by
    simp only [isBraced, Bool.and_eq_true, beq_iff_eq] at h
    refine Text.trim_eq_self ?_ ?_
    · intro c hc
      rw [h.1, Option.mem_some_iff] at hc
      rw [← hc]
      decide
    · intro c hc
      rw [h.2, Option.mem_some_iff] at hc
      rw [← hc]
      decide
  rw [read?, htrim, if_pos h]

/-- Only objects stand for descriptors. -/
lemma readsAsObject_of_read? {text : String} {descriptor : Descriptor}
    (h : read? text = some descriptor) : Json.ReadsAsObject (Text.trim text.toList) := by
  simp only [read?] at h
  split at h
  · obtain ⟨value, hvalue, hof⟩ := Option.bind_eq_some_iff.mp h
    obtain ⟨action, hfield, -⟩ := action_of_ofJson? hof
    cases value with
    | obj fields => exact ⟨fields, hvalue⟩
    | _ => exact absurd hfield (by simp [Json.field?])
  · exact absurd h (by simp)

/-- The action of an object is a text that is not blank. -/
def NamesAction (fields : List (String × Json)) : Prop :=
  ∃ action, Json.getField? "action" fields = some (.str action) ∧ Text.blank action = false

/-- An object stands for a descriptor if it names an action, and otherwise for none. -/
lemma ofJson?_eq_none_iff {fields : List (String × Json)} :
    ofJson? (.obj fields) = none ↔ ¬ NamesAction fields := by
  constructor
  · rintro hnone ⟨action, haction, hblank⟩
    rw [ofJson?_of_action haction hblank] at hnone
    exact absurd hnone (by simp)
  · intro hnames
    cases hof : ofJson? (.obj fields) with
    | none => rfl
    | some descriptor =>
        obtain ⟨action, haction, hblank, -⟩ := action_of_ofJson? hof
        exact absurd ⟨action, haction, hblank⟩ hnames

end Descriptor

namespace Diagram

open Descriptor

/-! ## The two parts of a note -/

lemma getLast?_of_closingPiece? {scan : BraceScan} {cs piece rest : List Char}
    (h : closingPiece? scan cs = some (piece, rest)) : piece.getLast? = some '\x7d' := by
  induction cs generalizing scan piece with
  | nil => exact absurd h (by simp [closingPiece?])
  | cons c cs ih =>
      rw [closingPiece?] at h
      split at h
      · rename_i hcloses
        simp only [BraceScan.closes, Bool.and_eq_true, beq_iff_eq] at hcloses
        obtain ⟨rfl, rfl⟩ := Prod.mk.inj (Option.some.inj h)
        rw [hcloses.1.2]
        rfl
      · obtain ⟨⟨front, behind⟩, hfound, heq⟩ := Option.map_eq_some_iff.mp h
        obtain ⟨rfl, rfl⟩ := Prod.mk.inj heq
        have hlast := ih hfound
        cases front with
        | nil => exact absurd hlast (by simp)
        | cons d front => rwa [List.getLast?_cons_cons]

/-- The piece that the scan finds has a brace at either end. -/
lemma isBraced_of_leadingObject? {cs piece rest : List Char}
    (h : leadingObject? cs = some (piece, rest)) : isBraced piece = true := by
  unfold leadingObject? at h
  split at h
  · have hlast := getLast?_of_closingPiece? h
    rw [closingPiece?, if_neg (by decide)] at h
    obtain ⟨found, -, heq⟩ := Option.map_eq_some_iff.mp h
    obtain ⟨rfl, -⟩ := Prod.mk.inj heq
    rw [isBraced, hlast]
    rfl
  · exact absurd h (by simp)

/-- The metadata that a note leaves reads as an object as it stands. -/
lemma metadata_of_splitNote {text metadata : String} {prose : Option String}
    (h : splitNote text = (some metadata, prose)) :
    Json.ReadsAsObject metadata.toList ∧ isBraced metadata.toList = true := by
  simp only [splitNote] at h
  split at h
  · exact absurd h (by simp)
  · rename_i piece rest hleading
    split at h
    · rename_i hobject
      obtain ⟨hpiece, -⟩ := Prod.mk.inj h
      obtain rfl := Option.some.inj hpiece
      rw [String.toList_ofList]
      exact ⟨Json.readsAsObject_iff.mpr hobject, isBraced_of_leadingObject? hleading⟩
    · exact absurd h (by simp)

lemma trim_dropSeparator (rest : List Char) :
    Text.trim (dropSeparator (Text.trim rest)) = dropSeparator (Text.trim rest) := by
  unfold dropSeparator
  split
  · exact Text.trim_trim _
  · exact Text.trim_trim rest

lemma not_blank_of_prose? {cs : List Char} {prose : String} (htrim : Text.trim cs = cs)
    (h : prose? cs = some prose) : Text.blank prose = false := by
  unfold prose? at h
  split at h
  · exact absurd h (by simp)
  · rename_i hne
    obtain rfl := Option.some.inj h
    rw [Text.blank, String.toList_ofList]
    exact (Text.tight_of_trim_eq (by simpa using hne) htrim).not_blank

/-- The prose that a note leaves is not blank. -/
lemma not_blank_of_splitNote {text prose : String} (h : (splitNote text).2 = some prose) :
    Text.blank prose = false := by
  rcases (splitNote_leadingObject text).2 with ⟨piece, rest, -, hsplit⟩ | ⟨-, hsplit⟩
  · rw [hsplit] at h
    exact not_blank_of_prose? (trim_dropSeparator rest) h
  · rw [hsplit] at h
    exact not_blank_of_prose? (Text.trim_trim text.toList) h

/-- **Prose without metadata in front of it is no descriptor**, since it would have been metadata
    itself. -/
lemma read?_of_splitNote {text prose : String} (h : splitNote text = (none, some prose)) :
    read? prose = none := by
  rcases (splitNote_leadingObject text).2 with ⟨piece, rest, -, hsplit⟩ | ⟨hnone, hsplit⟩
  · rw [hsplit] at h
    exact absurd h (by simp)
  · have hprose : prose? (Text.trim text.toList) = some prose := by
      rw [hsplit] at h
      exact (Prod.mk.inj h).2
    have hbody : prose.toList = Text.trim text.toList := by
      unfold prose? at hprose
      split at hprose
      · exact absurd hprose (by simp)
      · rw [← Option.some.inj hprose, String.toList_ofList]
    cases hread : read? prose with
    | none => rfl
    | some descriptor =>
        have hreads := readsAsObject_of_read? hread
        rw [hbody, Text.trim_trim] at hreads
        exact absurd ⟨_, List.prefix_rfl, hreads⟩ hnone

/-! ## Stereotypes -/

/-- A stereotype is not blank, and nothing with one behind it reads as a descriptor. -/
lemma note_of_noteStereotype (node : Node) (name : String) :
    ∃ note, (Draft.noteStereotype node name).note = some note ∧
      Text.blank note = false ∧ read? note = none := by
  have hends : ∀ front : String, Text.blank (front ++ ("<<" ++ name ++ ">>")) = false ∧
      read? (front ++ ("<<" ++ name ++ ">>")) = none := by
    intro front
    have hlist : (front ++ ("<<" ++ name ++ ">>")).toList
        = (front.toList ++ '<' :: '<' :: (name.toList ++ ['>'])) ++ ['>'] := by simp
    constructor
    · rw [Text.blank, hlist, Text.isBlankText, List.all_append]
      simp [show Text.isBlank '>' = false by decide]
    · have hlast := Text.getLast?_trim_concat
        (front.toList ++ '<' :: '<' :: (name.toList ++ ['>']))
        (show Text.isBlank '>' = false by decide)
      rw [read?, hlist, isBraced, hlast]
      simp
  have halone := hends ""
  rw [String.empty_append] at halone
  unfold Draft.noteStereotype
  cases hnote : node.note with
  | none => exact ⟨_, rfl, halone⟩
  | some note =>
      dsimp only
      split
      · exact ⟨_, rfl, halone⟩
      · exact ⟨_, rfl, hends (note ++ "\n")⟩

/-! ## Nodes -/

/-- **Data and prose stand apart on a node.** -/
structure Carried (node : Node) : Prop where
  metadata : ∀ m ∈ node.metadata, Json.ReadsAsObject m.toList ∧ isBraced m.toList = true
  note : ∀ t ∈ node.note, Text.blank t = false
  /-- Without metadata, the prose is no descriptor either. -/
  prose : node.metadata = none → ∀ t ∈ node.note, read? t = none

lemma carried_bare (id label : String) : Carried ⟨id, some label, none, none⟩ :=
  ⟨by simp, by simp, by simp⟩

lemma Carried.annotate {node : Node} (h : Carried node) (body : String) :
    Carried { node with
      metadata := (splitNote body).1 <|> node.metadata
      note := (splitNote body).2 <|> node.note } := by
  rcases hsplit : splitNote body with ⟨metadata, prose⟩
  refine ⟨?_, ?_, ?_⟩
  · intro m hm
    cases metadata with
    | none => exact h.metadata m hm
    | some m' =>
        obtain rfl : m' = m := by simpa using hm
        exact metadata_of_splitNote hsplit
  · intro t ht
    cases prose with
    | none => exact h.note t ht
    | some t' =>
        obtain rfl : t' = t := by simpa using ht
        exact not_blank_of_splitNote (by rw [hsplit])
  · intro hnone t ht
    cases metadata with
    | some m => exact absurd hnone (by simp)
    | none =>
        cases prose with
        | none => exact h.prose hnone t ht
        | some t' =>
            obtain rfl : t' = t := by simpa using ht
            exact read?_of_splitNote hsplit

lemma Carried.noteStereotype {node : Node} (h : Carried node) (name : String) :
    Carried (Draft.noteStereotype node name) := by
  obtain ⟨note, hnote, hblank, hread⟩ := note_of_noteStereotype node name
  refine ⟨h.metadata, ?_, ?_⟩
  · rw [hnote]
    simpa using hblank
  · intro _
    rw [hnote]
    simpa using hread

/-- Every node of every diagram carries its data and its prose apart. -/
lemma carried_ofLines (lines : List (List Char)) :
    ∀ e ∈ (Draft.ofLines lines).entries, Carried e.node :=
  (Draft.upheld_of_each carried_bare (fun _ body h => h.annotate body)
    fun _ name h => h.noteStereotype name).ofLines (by simp) lines

/-- **The readers of notes and of descriptors agree on a node.**  Its metadata reads as an object
    and its note says something.  Its descriptor is the one of its metadata, and there is none just
    if there is no metadata or the object there names no action.  The note stands for no descriptor
    where one is looked for in it. -/
structure AgreesOnMetadata (node : Node) : Prop where
  metadata : ∀ m ∈ node.metadata, Json.ReadsAsObject m.toList
  note : ∀ t ∈ node.note, Text.blank t = false
  descriptor : ofNode? node = node.metadata.bind read?
  none_iff : ofNode? node = none ↔ node.metadata = none ∨ ∃ m fields,
    node.metadata = some m ∧ Json.parse? m = some (.obj fields) ∧ ¬ NamesAction fields
  fallback : node.metadata = none → node.note.bind read? = none

lemma Carried.bind_read?_note {node : Node} (h : Carried node) (hnone : node.metadata = none) :
    node.note.bind read? = none := by
  cases hnote : node.note with
  | none => rfl
  | some t => exact h.prose hnone t hnote

lemma Carried.ofNode?_eq {node : Node} (h : Carried node) :
    ofNode? node = node.metadata.bind read? := by
  cases hmetadata : node.metadata with
  | none =>
      rw [ofNode?, hmetadata]
      exact h.bind_read?_note hmetadata
  | some m =>
      have hne : m ≠ "" := by
        rintro rfl
        exact (h.metadata "" hmetadata).1.ne_nil rfl
      rw [ofNode?, hmetadata]
      simp only [if_neg hne, Option.bind_some]

lemma Carried.ofNode?_eq_none_iff {node : Node} (h : Carried node) :
    ofNode? node = none ↔ node.metadata = none ∨ ∃ m fields,
      node.metadata = some m ∧ Json.parse? m = some (.obj fields) ∧ ¬ NamesAction fields := by
  rw [h.ofNode?_eq]
  cases hmetadata : node.metadata with
  | none => simp
  | some m =>
      obtain ⟨⟨fields, hfields⟩, hbraced⟩ := h.metadata m hmetadata
      have hread : read? m = ofJson? (.obj fields) := by
        rw [read?_of_isBraced hbraced, hfields, Option.bind_some]
      have hparse : Json.parse? m = some (.obj fields) := hfields
      rw [Option.bind_some, hread, ofJson?_eq_none_iff]
      simp [hparse]

lemma Carried.agrees {node : Node} (h : Carried node) : AgreesOnMetadata node :=
  ⟨fun m hm => (h.metadata m hm).1, h.note, h.ofNode?_eq, h.ofNode?_eq_none_iff,
    h.bind_read?_note⟩

/-- **What a diagram calls metadata is what descriptors are read from**: on every node of every text
    the two readers agree. -/
theorem read_agreesOnMetadata (text : String) (id name : Option String) (supply : IdSupply)
    (h : Text.blank text = false) : ∃ reading supply',
      read (some text) id name supply = (.ok reading, supply') ∧
        ∀ node ∈ reading.definition.nodes, AgreesOnMetadata node := by
  obtain ⟨usedId, usedName, supply', hread⟩ := read_of_not_blank h id name supply
  refine ⟨_, supply', hread, ?_⟩
  intro node hnode
  obtain ⟨e, he, rfl⟩ := List.mem_map.mp hnode
  exact (carried_ofLines _ e he).agrees

/-- A note that is an object and, behind the bar, another one that names an action; a note that only
    looks like an object; and a stereotype behind it. -/
def notesInBraces : String :=
  ":A;\nnote right: \x7b\x22a\x22: 1\x7d | \x7b\x22action\x22: \x22x\x22\x7d\n" ++
    ":B;\nnote right: \x7b\x22action\x22: \x22x\x22\x7d\x7d\x7d\n" ++
    ":C;\nnote right: \x7bc\x7d\n:C <<s>>;"

theorem read_agreesOnMetadata_notesInBraces : Text.blank notesInBraces = false ∧
    ∃ reading supply', read (some notesInBraces) (some "w") none {} = (.ok reading, supply') ∧
      ∀ node ∈ reading.definition.nodes, AgreesOnMetadata node :=
  ⟨by decide, read_agreesOnMetadata notesInBraces (some "w") none {} (by decide)⟩

end Diagram

end ActivityFlow
