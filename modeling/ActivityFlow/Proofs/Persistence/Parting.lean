import ActivityFlow.Proofs.Persistence.Archive
import ActivityFlow.Proofs.Routine.Division

/-!
# What is kept for different workflows

A persistence is told of workflows by their ids.  It keeps them apart if a call concerns what is
kept for one workflow only (`Persistence.KeepsApart`): the answer and the change depend on what is
kept for it, and what is kept for others stays.

**`Keyspace.keepsApart`** — a keyspace on a server keeps them apart, whatever commands fail.  All its
workflows share one index, in which each has at most its own entry.
-/

namespace ActivityFlow

variable {π δ : Type}

namespace Persistence

/-- A change concerns what is kept for one workflow. -/
structure Concerns (kept : String → π → δ) (id : String) (change : π → π) : Prop where
  own : ∀ s s', kept id s = kept id s' → kept id (change s) = kept id (change s')
  others : ∀ other s, other ≠ id → kept other (change s) = kept other s

/-- **A persistence that keeps workflows apart.**  Whether it tells of a failure when it is told
    something is not asked, since nobody listens. -/
structure KeepsApart (p : Persistence π) (kept : String → π → δ) : Prop where
  answer : ∀ id s s', kept id s = kept id s' → (p.load id s).1 = (p.load id s').1
  load : ∀ id, Concerns kept id fun s => (p.load id s).2
  update : ∀ id node, Concerns kept id fun s => (p.update id node s).2
  create : ∀ c : Checkpoint, Concerns kept c.definition.id fun s => (p.create c s).2

end Persistence

/-! ## A keyspace -/

namespace Keyspace

variable {k : Keyspace} {id : String}

/-- What a server holds for a workflow: the values under its keys, and whether it is in the index. -/
def held (k : Keyspace) (id : String) (s : Server) : Option Json × Option Json × Bool :=
  (s.values.get? (k.definitionKey id), s.values.get? (k.currentKey id),
    (s.membersOf k.indexKey).any (Json.alike (.str id)))

/-- The commands that are sent for a workflow. -/
inductive Addresses (k : Keyspace) (id : String) : Command → Prop
  | get : Addresses k id (.get (k.currentKey id))
  | writeCheckpoint (value : Json) : Addresses k id (k.writing (k.definitionKey id) value)
  | writeCurrent (value : Json) : Addresses k id (k.writing (k.currentKey id) value)
  | delete : Addresses k id (.delete [k.currentKey id])
  | enter : Addresses k id (.addMember k.indexKey (.str id))

lemma any_insertMember (set : List Json) (id other : String) :
    (insertMember set (.str id)).any (Json.alike (.str other)) =
      (other == id || set.any (Json.alike (.str other))) := by
  have halike : (Json.str other).alike (.str id) = (other == id) := rfl
  unfold insertMember
  split
  · rename_i hmem
    by_cases he : other = id
    · simp [he, hmem]
    · simp [he]
  · rw [List.any_append, List.any_cons, List.any_nil, halike, Bool.or_false, Bool.or_comm]

lemma perform_writing (s : Server) (key : String) (value : Json) :
    s.perform (k.writing key value) = (.ok, { s with values := s.values.put key value }) := by
  unfold writing
  split <;> rfl

/-- What a command for one workflow leaves for another. -/
lemma held_perform_of_ne {c : Command} (h : k.Addresses id c) {other : String} (hother : other ≠ id)
    (s : Server) : k.held other (s.perform c).2 = k.held other s := by
  have hdefinition := k.definitionKey_injective.mt hother
  have hcurrent := k.currentKey_injective.mt hother
  cases h with
  | get => rfl
  | writeCheckpoint value =>
      simp [held, perform_writing, KeyedMap.get?_put, hdefinition, Server.membersOf,
        (k.definitionKey_ne_currentKey id other).symm]
  | writeCurrent value =>
      simp [held, perform_writing, KeyedMap.get?_put, hcurrent, Server.membersOf,
        k.definitionKey_ne_currentKey other id]
  | delete =>
      simp [held, Server.perform, KeyedMap.get?_erase, hcurrent, Server.membersOf,
        k.definitionKey_ne_currentKey other id]
  | enter =>
      simp only [held, Server.perform, Server.membersOf, KeyedMap.get?_put_self, Option.getD_some,
        any_insertMember, beq_false_of_ne hother, Bool.false_or]

/-- A command for a workflow does the same wherever the same is held for it. -/
lemma held_perform {c : Command} (h : k.Addresses id c) {s s' : Server}
    (hheld : k.held id s = k.held id s') :
    (s.perform c).1 = (s'.perform c).1 ∧ k.held id (s.perform c).2 = k.held id (s'.perform c).2 := by
  simp only [held, Prod.mk.injEq] at hheld ⊢
  obtain ⟨hcheckpoint, hcurrent, hindex⟩ := hheld
  cases h with
  | get => exact ⟨congrArg Reply.value hcurrent, hcheckpoint, hcurrent, hindex⟩
  | writeCheckpoint value =>
      simp only [perform_writing, KeyedMap.get?_put, id_eq, Server.membersOf] at hindex ⊢
      rw [hcurrent]
      exact ⟨trivial, rfl, rfl, hindex⟩
  | writeCurrent value =>
      simp only [perform_writing, KeyedMap.get?_put, id_eq, Server.membersOf] at hindex ⊢
      rw [hcheckpoint]
      exact ⟨trivial, rfl, rfl, hindex⟩
  | delete =>
      simp only [Server.perform, List.foldl_cons, List.foldl_nil, KeyedMap.get?_erase, id_eq,
        Server.membersOf] at hindex ⊢
      rw [hcheckpoint]
      exact ⟨trivial, rfl, rfl, hindex⟩
  | enter =>
      simp only [Server.perform, Server.membersOf, KeyedMap.get?_put_self, Option.getD_some,
        any_insertMember] at hindex ⊢
      exact ⟨trivial, hcheckpoint, hcurrent, by rw [hindex]⟩

lemma failing_perform (s : Server) (c : Command) : (s.perform c).2.failing = s.failing := by
  cases c <;> rfl

/-! ### Over a link -/

/-- To a workflow belongs what the server holds for it.  Whether commands arrive is the same for
    all. -/
def division (k : Keyspace) : Division String (Link Server) where
  share id link := k.held id link.server
  common link := (link.connected, link.server.failing)
  sound _ _ _ := True

/-- A command is refused, or it is performed; it is recorded either way. -/
lemma receive_eq (s : Server) (c : Command) : s.receive c =
    (if c.name ∈ s.failing then .error .unreachable else .ok (s.perform c).1,
      { (if c.name ∈ s.failing then s else (s.perform c).2) with commands := s.commands ++ [c] }) := by
  unfold Server.receive
  by_cases h : c.name ∈ s.failing
  · simp [h]
  · cases c <;> simp [h, Server.perform, Server.membersOf]

lemma receive_server (s : Server) (c : Command) : Client.receive c s = s.receive c := rfl

lemma sent_eq (link : Link Server) (c : Command) :
    link.sent c = ⟨link.connected, (link.server.receive c).2⟩ := rfl

/-- **A command that is sent for a workflow serves it.** -/
lemma serves_send {c : Command} (h : k.Addresses id c) :
    k.division.Serves id (Remote.send c : Remote Server Reply).run.run := by
  have hspares (link : Link Server) : k.division.Spares id link (link.sent c) := by
    constructor
    · intro other hother
      simp only [division, sent_eq, receive_eq]
      split
      · rfl
      · exact held_perform_of_ne h hother link.server
    · simp only [division, sent_eq, receive_eq]
      split
      · rfl
      · exact congrArg (link.connected, ·) (failing_perform link.server c)
  intro link link' _ hagree
  obtain ⟨hconnected, hfailing⟩ := Prod.mk.inj hagree.common
  rw [Remote.run_send, Remote.run_send, ← hconnected, receive_server, receive_server]
  split
  · obtain ⟨hreply, hheld⟩ := held_perform h hagree.share
    refine ⟨?_, ?_, hspares link, hspares link', trivial⟩
    · simp only [receive_eq, ← hfailing, hreply]
    · simp only [division, sent_eq, receive_eq, ← hfailing]
      split
      · exact hagree.share
      · exact hheld
  · exact .of_answer trivial hagree rfl

open Division

lemma serves_remote_bind {α β : Type} {x : Remote Server α} {f : α → Remote Server β}
    (hx : k.division.Serves id x.run.run) (hf : ∀ a, k.division.Serves id (f a).run.run) :
    k.division.Serves id (x >>= f).run.run := by
  rw [ExceptT.run_bind]
  refine hx.bind fun answer => ?_
  cases answer with
  | error e => exact serves_pure _
  | ok a => exact hf a

lemma serves_remote_pure {α : Type} (a : α) :
    k.division.Serves id (pure a : Remote Server α).run.run :=
  serves_pure _

lemma serves_discard {c : Command} (h : k.Addresses id c) :
    k.division.Serves id (discard (Remote.send c) : Remote Server Unit).run.run :=
  serves_remote_bind (serves_send h) fun _ => serves_remote_pure ()

lemma serves_load (k : Keyspace) (id : String) :
    k.division.Serves id (k.persistence.load id : Link Server → _) := by
  have hload : k.division.Serves id (k.loadCurrent (.str id) : Remote Server _).run.run :=
    serves_remote_bind (serves_send .get) fun reply => serves_remote_pure reply.value?
  exact hload.map _

lemma serves_updateCurrent (k : Keyspace) (id : String) (node : Json) :
    k.division.Serves id (k.updateCurrent (.str id) node : Remote Server Unit).run.run := by
  unfold updateCurrent
  split
  · exact serves_discard .delete
  · exact serves_discard (.writeCurrent node)

lemma serves_create (k : Keyspace) (c : Checkpoint) :
    k.division.Serves c.definition.id (k.create c : Remote Server Unit).run.run := by
  by_cases hid : c.definition.id = ""
  · intro link link' hs hagree
    rw [create_refused hid, create_refused hid]
    exact .of_answer hs hagree rfl
  · rw [create_eq hid]
    refine serves_remote_bind (serves_discard (.writeCheckpoint _)) fun _ =>
      serves_remote_bind (serves_discard .enter) fun _ => ?_
    split
    · exact serves_discard (.writeCurrent _)
    · exact serves_remote_pure ()

/-- What is kept for a workflow on a server, and whether commands arrive there. -/
def kept (k : Keyspace) (id : String) (link : Link Server) :
    (Option Json × Option Json × Bool) × Bool × List String :=
  (k.held id link.server, link.connected, link.server.failing)

lemma concerns_of_serves {α : Type} {f : Link Server → α × Link Server} (h : k.division.Serves id f) :
    Persistence.Concerns k.kept id fun link => (f link).2 where
  own link link' hkept := by
    obtain ⟨hheld, hcommon⟩ := Prod.mk.inj hkept
    have hagree : k.division.Agree id link link' := ⟨hheld, hcommon⟩
    have hend := (h link link' trivial hagree).agree hagree
    exact Prod.ext hend.share hend.common
  others other link hother := by
    have hspares := h.spares (s := link) trivial
    exact Prod.ext (hspares.share other hother) hspares.common

/-- **A keyspace keeps workflows apart**, whatever their ids look like. -/
theorem keepsApart (k : Keyspace) : k.persistence.KeepsApart k.kept where
  answer id link link' hkept := by
    obtain ⟨hheld, hcommon⟩ := Prod.mk.inj hkept
    exact (k.serves_load id link link' trivial ⟨hheld, hcommon⟩).answer
  load id := concerns_of_serves (k.serves_load id)
  update id node := concerns_of_serves (k.serves_updateCurrent id _)
  create c := concerns_of_serves (k.serves_create c)

end Keyspace

end ActivityFlow
