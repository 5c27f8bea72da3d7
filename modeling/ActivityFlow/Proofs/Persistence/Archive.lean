import ActivityFlow.Persistence.Keyspace
import ActivityFlow.Proofs.Graph.Snapshot
import Mathlib.Data.List.Perm.Basic
import Mathlib.Logic.Function.Basic

/-!
# A keyspace keeps an archive

What a persistence should keep is a map: for each workflow the last checkpoint and the last current
node, until they are taken back.  A keyspace has a client of a server of values and sets for it, one
flat space of keys, and texts for the checkpoints.  It answers as the map would.

* `Archive` — the map, and what each errand does to it.
* `Keyspace.Holds` — what is to be seen through a client is the data of an archive: a value under the
  key of every checkpoint and every current node, a member of the index for every checkpoint, and
  nothing else.
* `Keyspace.Holds.perform` — every errand keeps it so, over any client that obeys the laws, and
  `Holds.foldl` says it of all of them.
* **`Keyspace.answers_as_archive`** — what is loaded and listed is what the archive has.

Ids are arbitrary texts.  They may contain colons and look like other keys; the three kinds of keys
differ in their first letter behind the root, and within a kind the id is all that is left.
-/

namespace ActivityFlow

/-! ## The map -/

/-- A checkpoint and a current node for each workflow that has one. -/
structure Archive where
  checkpoint : String → Option Checkpoint
  current : String → Option String

namespace Archive

/-- What a persistence is asked to do. -/
inductive Errand where
  | create (checkpoint : Checkpoint)
  | update (id : String) (node : Option String)
  | delete (id : String)
  | load (id : String)
  | loadCurrent (id : String)
  | list

/-- An archive of nothing. -/
def empty : Archive where
  checkpoint := fun _ => none
  current := fun _ => none

/-- The node that is meant; the empty text means none. -/
def meant? (node : Option String) : Option String :=
  node.filter fun n => n ≠ ""

/-- The archive behind an errand.  A checkpoint without an id is not kept, and one without a
    current node leaves an older one where it is. -/
def take (a : Archive) : Errand → Archive
  | .create c =>
    if c.definition.id = "" then a
    else
      { checkpoint := Function.update a.checkpoint c.definition.id (some c)
        current := match meant? c.current with
          | some node => Function.update a.current c.definition.id (some node)
          | none => a.current }
  | .update id node => { a with current := Function.update a.current id (meant? node) }
  | .delete id =>
    { checkpoint := Function.update a.checkpoint id none
      current := Function.update a.current id none }
  | .load _ | .loadCurrent _ | .list => a

/-- The archive behind several errands. -/
def after (errands : List Errand) : Archive :=
  errands.foldl take empty

/-- Why an errand is refused: a checkpoint has to say which workflow it is of. -/
def Errand.answer : Errand → Except PersistenceError Unit
  | create c => if c.definition.id = "" then .error .missingId else .ok ()
  | _ => .ok ()

end Archive

open Archive

namespace Keyspace

/-- An errand to a keyspace; what is loaded is let go. -/
def perform {κ : Type} [Client κ] (k : Keyspace) : Errand → Remote κ Unit
  | .create c => k.create c
  | .update id node => k.updateCurrent (.str id) (.ofOption node)
  | .delete id => k.delete (.str id)
  | .load id => discard (k.load (.str id))
  | .loadCurrent id => discard (k.loadCurrent (.str id))
  | .list => discard k.list

/-- The link behind several errands to an empty server that answers. -/
def after (k : Keyspace) (errands : List Errand) : Link Server :=
  errands.foldl (fun link r => ((k.perform r).run.run link).2) ⟨true, .ofData [] [] []⟩

end Keyspace

variable {κ : Type}

/-! ## Sending over a link -/

/-- A link after a command. -/
def Link.sent [Client κ] (link : Link κ) (c : Command) : Link κ :=
  link.withServer (Client.receive c link.server).2

namespace Remote

variable {α β : Type} {link link' : Link κ}

lemma run_bind_of_ok {x : Remote κ α} {a : α} (f : α → Remote κ β)
    (h : x.run.run link = (.ok a, link')) : (x >>= f).run.run link = (f a).run.run link' := by
  rw [ExceptT.run_bind, Routine.run_bind, h]

lemma run_discard_of_ok {x : Remote κ α} {a : α} (h : x.run.run link = (.ok a, link')) :
    (discard x).run.run link = (.ok (), link') :=
  run_bind_of_ok (fun _ => pure ()) h

variable [Client κ]

/-- A command is answered by the client, if there is a connection. -/
lemma run_send (c : Command) (link : Link κ) : (send c : Remote κ Reply).run.run link =
    if link.connected then ((Client.receive c link.server).1, link.sent c)
    else (.error .notConnected, link) := by
  have hget : (ExceptT.lift Routine.get : Remote κ (Link κ)).run.run link = (.ok link, link) := rfl
  rw [send, run_bind_of_ok _ hget]
  split
  · have view_put (server : κ) (link : Link κ) : (link.withServer server).server = server := rfl
    exact Routine.run_zoom view_put (fun _ _ _ => rfl) (fun _ => rfl) (Client.sending c) link
  · rfl

/-- A command that is taken is answered. -/
lemma exists_run_send {v : Client.View κ} (hlaws : Client.Laws v) {c : Command}
    (htakes : v.Takes link.server c) (hconnected : link.connected = true) : ∃ reply,
      (Client.receive c link.server).1 = .ok reply ∧
        (send c : Remote κ Reply).run.run link = (.ok reply, link.sent c) := by
  obtain ⟨reply, hreply⟩ := hlaws.replies htakes
  exact ⟨reply, hreply, by rw [run_send, if_pos hconnected, hreply]⟩

lemma run_discard_send {v : Client.View κ} (hlaws : Client.Laws v) {c : Command}
    (htakes : v.Takes link.server c) (hconnected : link.connected = true) :
    (discard (send c) : Remote κ Unit).run.run link = (.ok (), link.sent c) := by
  obtain ⟨reply, -, hsend⟩ := exists_run_send hlaws htakes hconnected
  exact run_discard_of_ok hsend

end Remote

/-! ## Texts that come back as bytes -/

namespace Text.Encoding

lemma toList_loop (bs : ByteArray) (i : Nat) (before : List UInt8) :
    ByteArray.toList.loop bs i before = before.reverse ++ bs.data.toList.drop i := by
  induction hn : bs.size - i generalizing i before with
  | zero =>
      have hi : bs.data.toList.length ≤ i := by
        change bs.size ≤ i
        omega
      rw [ByteArray.toList.loop, if_neg (show ¬ i < bs.size by omega),
        List.drop_of_length_le hi, List.append_nil]
  | succ n ih =>
      have hi : i < bs.data.toList.length := by
        change i < bs.size
        omega
      have hget : bs.get! i = bs.data.toList[i] := getElem!_pos bs.data i hi
      rw [ByteArray.toList.loop, if_pos (show i < bs.size by omega), ih (i + 1) _ (by omega),
        List.drop_eq_getElem_cons hi, hget, List.reverse_cons, List.append_assoc]
      rfl

/-- A brace and a quote are a byte each. -/
lemma bytesOf_braced (cs : List Char) :
    ∃ bytes, bytesOf (String.ofList ('\x7b' :: '\x22' :: cs)) = 123 :: 34 :: bytes := by
  refine ⟨cs.utf8Encode.data.toList.map UInt8.toNat, ?_⟩
  have hdata : ('\x7b' :: '\x22' :: cs).utf8Encode.data.toList
      = 123 :: 34 :: cs.utf8Encode.data.toList := by
    have hbrace : String.utf8EncodeChar '\x7b' = [123] := rfl
    have hquote : String.utf8EncodeChar '\x22' = [34] := rfl
    simp [List.utf8Encode, hbrace, hquote]
  rw [bytesOf, String.toUTF8, String.toByteArray_ofList, ByteArray.toList, toList_loop, hdata]
  rfl

/-- There is no zero among the first two bytes, and no byte order mark in front. -/
lemma reread_braced (cs : List Char) :
    reread (String.ofList ('\x7b' :: '\x22' :: cs)) = .ok ('\x7b' :: '\x22' :: cs) := by
  obtain ⟨bytes, hbytes⟩ := bytesOf_braced cs
  have hutf8 : ofBytes (123 :: 34 :: bytes) = utf8 := by
    rcases bytes with _ | ⟨b, _ | ⟨c, bytes⟩⟩ <;> rfl
  rw [reread, hbytes, hutf8, String.toList_ofList]
  rfl

end Text.Encoding

namespace Keyspace

variable {k : Keyspace}

/-! ## The keys -/

lemma definitionKey_ne_indexKey (k : Keyspace) (id : String) : k.definitionKey id ≠ k.indexKey := by
  simp [definitionKey, indexKey, ← String.toList_inj]

lemma currentKey_ne_indexKey (k : Keyspace) (id : String) : k.currentKey id ≠ k.indexKey := by
  simp [currentKey, indexKey, ← String.toList_inj]

/-- What a command sees and leaves that writes a value. -/
lemma takes_writing {v : Client.View κ} {s : κ} {key : String} {value : Json} :
    v.Takes s (k.writing key value) ↔ v.Works s ∧ v.set? s key = none := by
  unfold writing
  split <;> rfl

section

variable [Client κ]

lemma values_writing {v : Client.View κ} (hlaws : Client.Laws v) {s : κ} {key : String} {value : Json}
    (h : v.Takes s (k.writing key value)) (other : String) :
    v.value? (Client.receive (k.writing key value) s).2 other =
      if other = key then some value else v.value? s other := by
  revert h
  unfold writing
  split
  · exact fun h => hlaws.values h other
  · exact fun h => hlaws.values h other

lemma sets_writing {v : Client.View κ} (hlaws : Client.Laws v) {s : κ} {key : String} {value : Json}
    (h : v.Takes s (k.writing key value)) :
    v.set? (Client.receive (k.writing key value) s).2 = v.set? s := by
  funext other
  revert h
  unfold writing
  split
  · exact fun h => hlaws.sets h other (by simp)
  · exact fun h => hlaws.sets h other (by simp)

end

/-! ## The values -/

/-- The value that is written for a checkpoint. -/
def written (c : Checkpoint) : Json :=
  .str (Json.obj c.toFields).render

/-- The values are those of an archive, and no others. -/
structure HoldsValues (k : Keyspace) (a : Archive) (value? : String → Option Json) : Prop where
  checkpoint : ∀ id, value? (k.definitionKey id) = (a.checkpoint id).map written
  current : ∀ id, value? (k.currentKey id) = (a.current id).map .str
  keys : ∀ key, value? key ≠ none →
    (∃ id, key = k.definitionKey id) ∨ ∃ id, key = k.currentKey id

namespace HoldsValues

variable {a : Archive} {value? value?' : String → Option Json} (h : k.HoldsValues a value?)
include h

/-- There is no value under the key of the index. -/
lemma none_of_index : value? k.indexKey = none := by
  by_contra hvalue
  rcases h.keys _ hvalue with ⟨id, hkey⟩ | ⟨id, hkey⟩
  · exact k.definitionKey_ne_indexKey id hkey.symm
  · exact k.currentKey_ne_indexKey id hkey.symm

/-- The value of a checkpoint is written or erased. -/
lemma changeCheckpoint (id : String) (c : Option Checkpoint)
    (hget : ∀ key, value?' key =
      if key = k.definitionKey id then c.map written else value? key) :
    k.HoldsValues { a with checkpoint := Function.update a.checkpoint id c } value?' where
  checkpoint := by
    intro other
    by_cases he : other = id
    · simp [hget, he]
    · simp [hget, he, h.checkpoint, k.definitionKey_injective.mt]
  current := by
    intro other
    rw [hget, if_neg (k.definitionKey_ne_currentKey id other).symm, h.current]
  keys := by
    intro key hkey
    rw [hget] at hkey
    by_cases he : key = k.definitionKey id
    · exact .inl ⟨id, he⟩
    · exact h.keys key (by rwa [if_neg he] at hkey)

/-- The value of a current node is written or erased. -/
lemma changeCurrent (id : String) (node : Option String)
    (hget : ∀ key, value?' key =
      if key = k.currentKey id then node.map .str else value? key) :
    k.HoldsValues { a with current := Function.update a.current id node } value?' where
  checkpoint := by
    intro other
    rw [hget, if_neg (k.definitionKey_ne_currentKey other id), h.checkpoint]
  current := by
    intro other
    by_cases he : other = id
    · simp [hget, he]
    · simp [hget, he, h.current, k.currentKey_injective.mt]
  keys := by
    intro key hkey
    rw [hget] at hkey
    by_cases he : key = k.currentKey id
    · exact .inr ⟨id, he⟩
    · exact h.keys key (by rwa [if_neg he] at hkey)

end HoldsValues

/-! ## The index -/

/-- The sets are the index alone, and its members are the ids that have a checkpoint. -/
structure HoldsIndex (k : Keyspace) (checkpoint : String → Option Checkpoint)
    (set? : String → Option (List Json)) : Prop where
  members : ∃ ids : List String, (set? k.indexKey).getD [] = ids.map .str ∧ ids.Nodup ∧
    ∀ id, id ∈ ids ↔ (checkpoint id).isSome
  keys : ∀ key, set? key ≠ none → key = k.indexKey

lemma insertMember_map (ids : List String) (id : String) :
    insertMember (ids.map .str) (.str id) =
      (if id ∈ ids then ids else ids ++ [id]).map .str := by
  have hany : (ids.map Json.str).any (Json.alike (.str id)) = ids.any (id == ·) := by
    rw [List.any_map]
    rfl
  by_cases hid : id ∈ ids
  · simp [insertMember, hany, hid]
  · simp [insertMember, hany, hid]

lemma eraseMember_map (ids : List String) (id : String) :
    eraseMember (ids.map .str) (.str id) = (ids.filter fun other => id ≠ other).map .str := by
  rw [eraseMember, List.filter_map]
  congr 1
  refine List.filter_congr fun other _ => ?_
  change (!(id == other)) = decide (id ≠ other)
  by_cases h : id = other <;> simp [h]

/-- A list of texts in another order. -/
lemma exists_ids_of_perm {found : List Json} {ids : List String}
    (h : found.Perm (ids.map .str)) : ∃ ids' : List String, found = ids'.map .str ∧ ids'.Perm ids := by
  have hcomp : Relation.Comp (fun l ids => l = List.map Json.str ids) List.Perm found ids := by
    rw [List.eq_map_comp_perm]
    exact h
  exact hcomp

namespace HoldsIndex

variable {checkpoint : String → Option Checkpoint} {set? set?' : String → Option (List Json)}
  (h : k.HoldsIndex checkpoint set?)
include h

/-- Under other keys than that of the index there is no set. -/
lemma none_of_ne {key : String} (hkey : key ≠ k.indexKey) : set? key = none := by
  by_contra hset
  exact hkey (h.keys key hset)

lemma keys_of_others (hothers : ∀ key, key ≠ k.indexKey → set?' key = set? key) {key : String}
    (hkey : set?' key ≠ none) : key = k.indexKey := by
  by_contra hne
  exact hne (h.keys key (by rwa [← hothers key hne]))

lemma insert (id : String) (c : Checkpoint)
    (hset : ((set?' k.indexKey).getD []).Perm
      (insertMember ((set? k.indexKey).getD []) (.str id)))
    (hothers : ∀ key, key ≠ k.indexKey → set?' key = set? key) :
    k.HoldsIndex (Function.update checkpoint id (some c)) set?' where
  members := by
    obtain ⟨ids, hmembers, hnodup, hmem⟩ := h.members
    rw [hmembers, insertMember_map] at hset
    obtain ⟨ids', hids, hperm⟩ := exists_ids_of_perm hset
    refine ⟨ids', hids, hperm.nodup_iff.mpr ?_, ?_⟩
    · split
      · exact hnodup
      · rename_i hid
        rw [← List.concat_eq_append]
        exact hnodup.concat hid
    · intro other
      have hor : other ∈ (if id ∈ ids then ids else ids ++ [id]) ↔ other = id ∨ other ∈ ids := by
        split <;> simp <;> grind
      rw [hperm.mem_iff, hor, hmem, Function.update_apply]
      by_cases he : other = id
      · simp [he]
      · simp [he]
  keys := fun _ => h.keys_of_others hothers

lemma remove (id : String)
    (hset : ((set?' k.indexKey).getD []).Perm
      (eraseMember ((set? k.indexKey).getD []) (.str id)))
    (hothers : ∀ key, key ≠ k.indexKey → set?' key = set? key) :
    k.HoldsIndex (Function.update checkpoint id none) set?' where
  members := by
    obtain ⟨ids, hmembers, hnodup, hmem⟩ := h.members
    rw [hmembers, eraseMember_map] at hset
    obtain ⟨ids', hids, hperm⟩ := exists_ids_of_perm hset
    refine ⟨ids', hids, hperm.nodup_iff.mpr (hnodup.filter _), ?_⟩
    intro other
    rw [hperm.mem_iff, List.mem_filter, hmem, Function.update_apply]
    by_cases he : other = id
    · simp [he]
    · simp [he, Ne.symm he]
  keys := fun _ => h.keys_of_others hothers

end HoldsIndex

/-! ## Errands -/

/-- **The data behind a link is the data of an archive**, and nothing else. -/
structure Holds (k : Keyspace) (v : Client.View κ) (a : Archive) (link : Link κ) : Prop where
  connected : link.connected = true
  works : v.Works link.server
  values : k.HoldsValues a (v.value? link.server)
  index : k.HoldsIndex a.checkpoint (v.set? link.server)

lemma isVoid_str (s : String) : isVoid (.str s) = decide (s = "") := by
  by_cases h : s = ""
  · subst h
    rfl
  · simp [isVoid, h]

lemma fieldValue?_id (c : Checkpoint) :
    fieldValue? "id" c.toFields =
      if c.definition.id = "" then none else some (.str c.definition.id) := by
  have hfield : Json.getField? "id" c.toFields = some (.str c.definition.id) := rfl
  by_cases hid : c.definition.id = ""
  · simp [fieldValue?, hfield, Option.filter, isVoid_str, hid]
  · simp [fieldValue?, hfield, Option.filter, isVoid_str, hid]

lemma fieldValue?_current (c : Checkpoint) :
    fieldValue? "current_node_id" c.toFields = (meant? c.current).map .str := by
  have hfield : Json.getField? "current_node_id" c.toFields = some (.ofOption c.current) := rfl
  rw [fieldValue?, hfield]
  cases hnode : c.current with
  | none => rfl
  | some node =>
    by_cases he : node = ""
    · simp [Json.ofOption, Option.filter, isVoid_str, meant?, he]
    · simp [Json.ofOption, Option.filter, isVoid_str, meant?, he]

lemma create_eq [Client κ] {c : Checkpoint} (hid : c.definition.id ≠ "") :
    (k.create c : Remote κ Unit) = (do
      discard (Remote.send (k.writing (k.definitionKey c.definition.id) (written c)))
      discard (Remote.send (.addMember k.indexKey (.str c.definition.id)))
      match meant? c.current with
      | some node => discard (Remote.send (k.writing (k.currentKey c.definition.id) (.str node)))
      | none => pure ()) := by
  simp only [create, createFields, fieldValue?_id, if_neg hid, fieldValue?_current]
  cases meant? c.current <;> rfl

lemma create_refused [Client κ] {c : Checkpoint} (hid : c.definition.id = "") (link : Link κ) :
    (k.create c).run.run link = (.error .missingId, link) := by
  simp only [create, createFields, fieldValue?_id, if_pos hid]
  rfl

lemma textual_checkpoint (c : Checkpoint) : (Json.obj c.toFields).Textual := by
  have hdefinition : (Json.obj c.definition.toFields).Textual := c.definition.textual_toJson
  cases hdefinition with
  | obj _ hfields =>
    refine .obj (by simp [Checkpoint.toFields, Definition.toFields]) fun f hf => ?_
    rcases List.mem_append.mp hf with hf | hf
    · exact hfields f hf
    · obtain rfl := List.mem_singleton.mp hf
      exact Json.textual_ofOption c.current

lemma render_checkpoint (c : Checkpoint) :
    ∃ cs, (Json.obj c.toFields).render = String.ofList ('\x7b' :: '\x22' :: cs) :=
  ⟨_, rfl⟩

lemma render_ne_empty (c : Checkpoint) : (Json.obj c.toFields).render ≠ "" := by
  obtain ⟨cs, hcs⟩ := render_checkpoint c
  simp [hcs, ← String.toList_inj]

/-- A checkpoint is read as it was written, as characters or as bytes. -/
lemma readText_render (k : Keyspace) (c : Checkpoint) :
    k.readText (Json.obj c.toFields).render = .ok (.obj c.toFields) := by
  have hcharacters : k.characters (Json.obj c.toFields).render = .ok (Json.obj c.toFields).write := by
    obtain ⟨cs, hcs⟩ := render_checkpoint c
    have hwrite : (Json.obj c.toFields).write = '\x7b' :: '\x22' :: cs := by
      rw [← Json.toList_render, hcs, String.toList_ofList]
    rw [characters, hcs, hwrite]
    split
    · rw [Text.Encoding.reread_braced]
      rfl
    · rw [String.toList_ofList]
  rw [readText, hcharacters]
  change (Json.read _).mapError _ = _
  rw [Json.read_write (textual_checkpoint c)]
  rfl

/-- The order of the ids, as a test. -/
def ahead (s t : String) : Bool :=
  decide (s ≤ t)

/-- What is sorted and had no repetition increases. -/
lemma pairwise_lt_mergeSort {ids : List String} (hnodup : ids.Nodup) :
    (ids.mergeSort ahead).Pairwise (· < ·) := by
  have htrans : ∀ r s t, ahead r s = true → ahead s t = true → ahead r t = true := by
    intro r s t hrs hst
    simp only [ahead, decide_eq_true_eq] at hrs hst ⊢
    exact String.le_trans hrs hst
  have htotal : ∀ s t, (ahead s t || ahead t s) = true := by
    intro s t
    simp only [ahead, Bool.or_eq_true, decide_eq_true_eq]
    exact String.le_total s t
  have hdistinct : (ids.mergeSort ahead).Pairwise (· ≠ ·) :=
    (List.mergeSort_perm ids ahead).nodup_iff.mpr hnodup
  refine ((List.pairwise_mergeSort htrans htotal ids).and hdistinct).imp fun {s t} h => ?_
  exact Std.lt_of_le_of_ne (of_decide_eq_true h.1) h.2

namespace Holds

variable {v : Client.View κ} {a : Archive} {link : Link κ} (h : k.Holds v a link)
include h

/-- No key stands for a value and a set at once. -/
lemma flat {key : String} (hvalue : v.value? link.server key ≠ none) :
    v.set? link.server key = none := by
  by_contra hset
  rw [h.index.keys key hset] at hvalue
  exact hvalue h.values.none_of_index

/-! ### Commands -/

/-- Values are written and read where there are no sets. -/
lemma takes_value {key : String} (hkey : key ≠ k.indexKey) (value : Json) :
    v.Takes link.server (k.writing key value) ∧ v.Takes link.server (.get key) := by
  rw [takes_writing]
  exact ⟨⟨h.works, h.index.none_of_ne hkey⟩, h.works, h.index.none_of_ne hkey⟩

lemma takes_delete {keys : List String} (hkeys : ∀ key ∈ keys, key ≠ k.indexKey) :
    v.Takes link.server (.delete keys) :=
  ⟨h.works, fun key hkey => h.index.none_of_ne (hkeys key hkey)⟩

/-- The index is a set where there is no value. -/
lemma takes_index (member : Json) : v.Takes link.server (.addMember k.indexKey member) ∧
    v.Takes link.server (.removeMember k.indexKey member) ∧
      v.Takes link.server (.members k.indexKey) := by
  have hnone := h.values.none_of_index
  exact ⟨⟨h.works, hnone⟩, ⟨h.works, hnone⟩, h.works, hnone⟩

variable [Client κ] (hlaws : Client.Laws v)
include hlaws

lemma writeCurrent (id node : String) :
    k.Holds v { a with current := Function.update a.current id (some node) }
      (link.sent (k.writing (k.currentKey id) (.str node))) where
  connected := h.connected
  works := hlaws.works (h.takes_value (k.currentKey_ne_indexKey id) _).1
  values := h.values.changeCurrent id (some node)
    (values_writing hlaws (h.takes_value (k.currentKey_ne_indexKey id) _).1)
  index := by
    change k.HoldsIndex _ (v.set? (Client.receive _ link.server).2)
    rw [sets_writing hlaws (h.takes_value (k.currentKey_ne_indexKey id) _).1]
    exact h.index

/-- A checkpoint is written before it is entered into the index, so the index is behind for one
    command. -/
lemma writeCheckpoint (id : String) (c : Checkpoint) :
    let written := link.sent (k.writing (k.definitionKey id) (written c))
    v.Takes written.server (.addMember k.indexKey (.str id)) ∧
      k.Holds v { a with checkpoint := Function.update a.checkpoint id (some c) }
        (written.sent (.addMember k.indexKey (.str id))) := by
  intro link'
  have htakes := (h.takes_value (k.definitionKey_ne_indexKey id) (written c)).1
  have hvalues : k.HoldsValues { a with checkpoint := Function.update a.checkpoint id (some c) }
      (v.value? link'.server) :=
    h.values.changeCheckpoint id (some c) (values_writing hlaws htakes)
  have hsets : v.set? link'.server = v.set? link.server := sets_writing hlaws htakes
  have htakes' : v.Takes link'.server (.addMember k.indexKey (.str id)) :=
    ⟨hlaws.works htakes, hvalues.none_of_index⟩
  refine ⟨htakes', h.connected, hlaws.works htakes', ?_, ?_⟩
  · have hsame : v.value? (link'.sent (.addMember k.indexKey (.str id))).server =
        v.value? link'.server := funext (hlaws.values htakes')
    rw [hsame]
    exact hvalues
  · have hset := hlaws.addMember htakes'
    rw [hsets] at hset
    refine h.index.insert id c hset fun key hkey => ?_
    exact (hlaws.sets htakes' key (by simp [Ne.symm hkey])).trans (congrFun hsets key)

lemma sets_delete {keys : List String} (hkeys : ∀ key ∈ keys, key ≠ k.indexKey) :
    v.set? (link.sent (.delete keys)).server = v.set? link.server :=
  funext fun key => hlaws.sets (h.takes_delete hkeys) key (by simp)

lemma eraseCurrent (id : String) :
    k.Holds v { a with current := Function.update a.current id none }
      (link.sent (.delete [k.currentKey id])) := by
  have hkeys : ∀ key ∈ [k.currentKey id], key ≠ k.indexKey := by
    simpa using k.currentKey_ne_indexKey id
  refine ⟨h.connected, hlaws.works (h.takes_delete hkeys), ?_, ?_⟩
  · refine h.values.changeCurrent id none fun key => ?_
    exact (hlaws.values (h.takes_delete hkeys) key).trans (by simp)
  · rw [h.sets_delete hlaws hkeys]
    exact h.index

/-- A workflow is forgotten in two commands, of which the second takes it out of the index. -/
lemma erase (id : String) :
    let erased := link.sent (.delete [k.definitionKey id, k.currentKey id])
    v.Takes erased.server (.removeMember k.indexKey (.str id)) ∧
      k.Holds v (a.take (.delete id)) (erased.sent (.removeMember k.indexKey (.str id))) := by
  intro link'
  have hkeys : ∀ key ∈ [k.definitionKey id, k.currentKey id], key ≠ k.indexKey := by
    simpa using ⟨k.definitionKey_ne_indexKey id, k.currentKey_ne_indexKey id⟩
  have htakes := h.takes_delete hkeys
  have hvalues : k.HoldsValues (a.take (.delete id)) (v.value? link'.server) := by
    refine (h.values.changeCheckpoint id none fun key => rfl).changeCurrent id none fun key => ?_
    refine (hlaws.values htakes key).trans ?_
    by_cases hcurrent : key = k.currentKey id
    · simp [hcurrent]
    · simp [hcurrent]
  have hsets : v.set? link'.server = v.set? link.server := h.sets_delete hlaws hkeys
  have htakes' : v.Takes link'.server (.removeMember k.indexKey (.str id)) :=
    ⟨hlaws.works htakes, hvalues.none_of_index⟩
  refine ⟨htakes', h.connected, hlaws.works htakes', ?_, ?_⟩
  · have hsame : v.value? (link'.sent (.removeMember k.indexKey (.str id))).server =
        v.value? link'.server := funext (hlaws.values htakes')
    rw [hsame]
    exact hvalues
  · have hset := hlaws.removeMember htakes'
    rw [hsets] at hset
    refine h.index.remove id hset fun key hkey => ?_
    exact (hlaws.sets htakes' key (by simp [Ne.symm hkey])).trans (congrFun hsets key)

/-- A command that only asks leaves the data alone. -/
lemma ask {c : Command} (htakes : v.Takes link.server c)
    (hasks : (∃ key, c = .get key) ∨ ∃ key, c = .members key) : k.Holds v a (link.sent c) := by
  refine ⟨h.connected, hlaws.works htakes, ?_, ?_⟩
  · have hvalues : v.value? (link.sent c).server = v.value? link.server := by
      obtain ⟨key, rfl⟩ | ⟨key, rfl⟩ := hasks
      · exact funext (hlaws.values htakes)
      · exact funext (hlaws.values htakes)
    rw [hvalues]
    exact h.values
  · have hsets : v.set? (link.sent c).server = v.set? link.server := by
      refine funext fun key => hlaws.sets htakes key ?_
      obtain ⟨key, rfl⟩ | ⟨key, rfl⟩ := hasks <;> simp
    rw [hsets]
    exact h.index

/-! ### Errands -/

lemma create (c : Checkpoint) :
    ∃ link', (k.create c).run.run link = (Errand.answer (.create c), link') ∧
      k.Holds v (a.take (.create c)) link' := by
  by_cases hid : c.definition.id = ""
  · rw [create_refused hid, Errand.answer, if_pos hid, take, if_pos hid]
    exact ⟨link, rfl, h⟩
  have htakes := (h.takes_value (k.definitionKey_ne_indexKey c.definition.id) (written c)).1
  obtain ⟨hindex, hwritten⟩ := h.writeCheckpoint hlaws c.definition.id c
  rw [create_eq hid, Errand.answer, if_neg hid, take, if_neg hid,
    Remote.run_bind_of_ok _ (Remote.run_discard_send hlaws htakes h.connected),
    Remote.run_bind_of_ok _ (Remote.run_discard_send hlaws hindex h.connected)]
  cases meant? c.current with
  | none => exact ⟨_, rfl, hwritten⟩
  | some node =>
    have hcurrent :=
      (hwritten.takes_value (k.currentKey_ne_indexKey c.definition.id) (.str node)).1
    exact ⟨_, Remote.run_discard_send hlaws hcurrent hwritten.connected,
      hwritten.writeCurrent hlaws c.definition.id node⟩

lemma updateCurrent (id : String) (node : Option String) :
    ∃ link', (k.updateCurrent (.str id) (.ofOption node)).run.run link = (.ok (), link') ∧
      k.Holds v (a.take (.update id node)) link' := by
  have hcases : (k.updateCurrent (.str id) (.ofOption node) : Remote κ Unit) = match meant? node with
      | some n => discard (Remote.send (k.writing (k.currentKey id) (.str n)))
      | none => discard (Remote.send (.delete [k.currentKey id])) := by
    cases node with
    | none => rfl
    | some n =>
      by_cases he : n = ""
      · simp [Keyspace.updateCurrent, Json.ofOption, isVoid_str, meant?, Option.filter, he,
          Json.plain]
      · simp [Keyspace.updateCurrent, Json.ofOption, isVoid_str, meant?, Option.filter, he,
          Json.plain]
  have hkeys : ∀ key ∈ [k.currentKey id], key ≠ k.indexKey := by
    simpa using k.currentKey_ne_indexKey id
  rw [hcases, take]
  cases meant? node with
  | none =>
    exact ⟨_, Remote.run_discard_send hlaws (h.takes_delete hkeys) h.connected,
      h.eraseCurrent hlaws id⟩
  | some n =>
    have htakes := (h.takes_value (k.currentKey_ne_indexKey id) (.str n)).1
    exact ⟨_, Remote.run_discard_send hlaws htakes h.connected, h.writeCurrent hlaws id n⟩

lemma delete (id : String) :
    ∃ link', (k.delete (.str id)).run.run link = (.ok (), link') ∧
      k.Holds v (a.take (.delete id)) link' := by
  have hkeys : ∀ key ∈ [k.definitionKey id, k.currentKey id], key ≠ k.indexKey := by
    simpa using ⟨k.definitionKey_ne_indexKey id, k.currentKey_ne_indexKey id⟩
  obtain ⟨hindex, herased⟩ := h.erase hlaws id
  refine ⟨_, ?_, herased⟩
  have hdelete := Remote.run_discard_send hlaws (h.takes_delete hkeys) h.connected
  rw [Keyspace.delete]
  exact (Remote.run_bind_of_ok _ hdelete).trans (Remote.run_discard_send hlaws hindex h.connected)

/-- What is loaded is the checkpoint that was kept last. -/
lemma load (id : String) :
    (k.load (.str id)).run.run link =
      (.ok ((a.checkpoint id).map fun c => .obj c.toFields),
        link.sent (.get (k.definitionKey id))) := by
  have htakes := (h.takes_value (k.definitionKey_ne_indexKey id) .null).2
  obtain ⟨reply, hreply, hsend⟩ := Remote.exists_run_send hlaws htakes h.connected
  rw [hlaws.get htakes, h.values.checkpoint] at hreply
  obtain rfl := Except.ok.inj hreply
  have hplain : (Json.str id).plain = id := rfl
  rw [Keyspace.load, hplain, Remote.run_bind_of_ok _ hsend]
  cases a.checkpoint id with
  | none => rfl
  | some c =>
    simp only [Option.map_some, Reply.value?, written, if_neg (render_ne_empty c), readText_render]
    rfl

lemma loadCurrent (id : String) :
    (k.loadCurrent (.str id)).run.run link =
      (.ok ((a.current id).map .str), link.sent (.get (k.currentKey id))) := by
  have htakes := (h.takes_value (k.currentKey_ne_indexKey id) .null).2
  obtain ⟨reply, hreply, hsend⟩ := Remote.exists_run_send hlaws htakes h.connected
  rw [hlaws.get htakes, h.values.current] at hreply
  obtain rfl := Except.ok.inj hreply
  exact Remote.run_bind_of_ok _ hsend

/-- What is listed is the ids of the checkpoints, in order. -/
lemma list : ∃ ids : List String,
    k.list.run.run link = (.ok (ids.map .str), link.sent (.members k.indexKey)) ∧
      ids.Pairwise (· < ·) ∧ ∀ id, id ∈ ids ↔ (a.checkpoint id).isSome := by
  have htakes := (h.takes_index .null).2.2
  obtain ⟨reply, hreply, hsend⟩ := Remote.exists_run_send hlaws htakes h.connected
  obtain ⟨found, hfound, hperm⟩ := hlaws.members htakes
  obtain rfl := Except.ok.inj (hreply.symm.trans hfound)
  obtain ⟨ids, hmembers, hnodup, hmem⟩ := h.index.members
  rw [hmembers] at hperm
  obtain ⟨listed, rfl, hlisted⟩ := exists_ids_of_perm hperm
  refine ⟨listed.mergeSort ahead, ?_, pairwise_lt_mergeSort (hlisted.nodup_iff.mpr hnodup), ?_⟩
  · have hsort : (listed.mergeSort ahead).map .str
        = (listed.map Json.str).mergeSort Json.atMost := List.map_mergeSort fun s _ t _ => rfl
    rw [Keyspace.list, Remote.run_bind_of_ok _ hsend, hsort]
    rfl
  · intro id
    rw [(List.mergeSort_perm listed _).mem_iff, hlisted.mem_iff, hmem]

/-- **Every errand is answered, and keeps the data that of the archive.** -/
theorem perform (r : Errand) :
    ∃ link', (k.perform r).run.run link = (r.answer, link') ∧ k.Holds v (a.take r) link' := by
  cases r with
  | create c => exact h.create hlaws c
  | update id node => exact h.updateCurrent hlaws id node
  | delete id => exact h.delete hlaws id
  | load id =>
    exact ⟨_, Remote.run_discard_of_ok (h.load hlaws id), h.ask hlaws
      (h.takes_value (k.definitionKey_ne_indexKey id) .null).2 (.inl ⟨_, rfl⟩)⟩
  | loadCurrent id =>
    exact ⟨_, Remote.run_discard_of_ok (h.loadCurrent hlaws id), h.ask hlaws
      (h.takes_value (k.currentKey_ne_indexKey id) .null).2 (.inl ⟨_, rfl⟩)⟩
  | list =>
    obtain ⟨ids, hlist, -, -⟩ := h.list hlaws
    exact ⟨_, Remote.run_discard_of_ok hlist, h.ask hlaws (h.takes_index .null).2.2 (.inr ⟨_, rfl⟩)⟩

/-- After any errands the data behind a link is that of the archive behind them. -/
theorem foldl (errands : List Errand) :
    k.Holds v (errands.foldl take a)
      (errands.foldl (fun link r => ((k.perform r).run.run link).2) link) := by
  induction errands generalizing a link with
  | nil => exact h
  | cons r errands ih =>
      obtain ⟨link', hrun, h'⟩ := h.perform hlaws r
      rw [List.foldl_cons, List.foldl_cons, hrun]
      exact ih h'

end Holds

/-! ## From an empty server on -/

/-- Nothing is held for the empty archive. -/
lemma holds_empty (k : Keyspace) : k.Holds Server.view .empty ⟨true, .ofData [] [] []⟩ where
  connected := rfl
  works := rfl
  values := ⟨fun _ => rfl, fun _ => rfl, fun _ h => absurd rfl h⟩
  index := ⟨⟨[], rfl, List.nodup_nil, by simp [Archive.empty]⟩, fun _ h => absurd rfl h⟩

/-- **A keyspace answers as the archive does**, whatever it was asked before and whatever the ids
    look like.  A checkpoint is loaded as it was kept, a current node as it was kept last, and the
    ids that are listed, in order and each once, are those of the checkpoints.  The keys of values
    and of sets stay apart, so none of this needs a server with two spaces of keys. -/
theorem answers_as_archive (k : Keyspace) (errands : List Errand) :
    let link := k.after errands
    let archive := Archive.after errands
    (∀ id, ((k.load (.str id)).run.run link).1 =
        .ok ((archive.checkpoint id).map fun c => .obj c.toFields)) ∧
      (∀ id, ((k.loadCurrent (.str id)).run.run link).1 = .ok ((archive.current id).map .str)) ∧
      (∃ ids : List String, (k.list.run.run link).1 = .ok (ids.map .str) ∧ ids.Pairwise (· < ·) ∧
        ∀ id, id ∈ ids ↔ (archive.checkpoint id).isSome) ∧
      ∀ key, link.server.values.get? key ≠ none → link.server.sets.get? key = none := by
  intro link archive
  have h : k.Holds Server.view archive link := k.holds_empty.foldl Server.laws errands
  refine ⟨fun id => by rw [h.load Server.laws id], fun id => by rw [h.loadCurrent Server.laws id],
    ?_, fun key => h.flat⟩
  obtain ⟨ids, hlist, hsorted, hmem⟩ := h.list Server.laws
  exact ⟨ids, by rw [hlist], hsorted, hmem⟩

end Keyspace

end ActivityFlow
