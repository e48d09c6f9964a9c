import QfwSlurm.Interaction.Machine

/-!
# Messages in credentials

Principals put their messages into credentials, and an authority tells whoever opens one whose
message it is.  Everything else is up to the network: what is delivered where, how often and in
which order, and what is made up.

A server opens what reaches it and puts its answers into credentials of its own.  Whatever answer of
the server is in circulation was given in an earlier exchange, to a message of a principal that the
server accepts (`Realm.exists_question`).  If there is only one message that the answer can belong
to, the answer is to that message (`Realm.question_eq`).
-/

namespace Interaction

variable {P M C σ ι : Type}

/-- A message of a principal, and the credential it is in. -/
structure Credential (P M C : Type) where
  principal : P
  message : M
  text : C
  deriving DecidableEq

/-- What is found in credentials was put into them. -/
def Genuine (issued : List (Credential P M C)) (opening : C → Option (P × M)) : Prop :=
  ∀ text principal message, opening text = some (principal, message) →
    ⟨principal, message, text⟩ ∈ issued

/-- What a server was asked and answered. -/
structure Exchange (P M C : Type) where
  sender : P
  question : M
  answer : M
  text : C

/-- The state of the server, and the credentials in circulation. -/
structure Realm (σ P M C : Type) where
  state : σ
  issued : List (Credential P M C) := []

/-- A principal issues a credential, or the server takes a connection. -/
inductive Occurrence (ι P M C : Type) where
  | issues (credential : Credential P M C)
  | connects (connection : ι)

/-- The credential of the answer. -/
def Exchange.credential (server : P) (exchange : Exchange P M C) : Credential P M C :=
  ⟨server, exchange.answer, exchange.text⟩

section Realms

variable (server : P) (serve : σ → ι → Option (Exchange P M C) × σ)

/-- The realm after an occurrence. -/
def Realm.next (realm : Realm σ P M C) : Occurrence ι P M C → Realm σ P M C
  | .issues credential => { realm with issued := realm.issued ++ [credential] }
  | .connects connection =>
    { state := (serve realm.state connection).2
      issued := realm.issued ++
        ((serve realm.state connection).1.map (Exchange.credential server)).toList }

/-- The credentials in circulation stay there. -/
lemma Realm.issued_subset_next (realm : Realm σ P M C) (occurrence : Occurrence ι P M C) :
    realm.issued ⊆ (realm.next server serve occurrence).issued := by
  cases occurrence with
  | issues credential => exact List.subset_append_left _ _
  | connects connection => exact List.subset_append_left _ _

/-- So they do in a run. -/
lemma Realm.issued_subset_after (realm : Realm σ P M C) (run : List (Occurrence ι P M C)) :
    realm.issued ⊆ (after (Realm.next server serve) realm run).issued := by
  induction run generalizing realm with
  | nil => exact List.Subset.refl _
  | cons occurrence run ih =>
    exact List.Subset.trans (Realm.issued_subset_next server serve realm occurrence) (ih _)

/-- An answer of the server that is in circulation was there before, is claimed to be the server's,
or was given in an exchange. -/
lemma Realm.exists_exchange {realm : Realm σ P M C} {run : List (Occurrence ι P M C)}
    {credential : Credential P M C}
    (h : credential ∈ (after (Realm.next server serve) realm run).issued) :
    credential ∈ realm.issued ∨ .issues credential ∈ run ∨
      ∃ before connection rest exchange, run = before ++ Occurrence.connects connection :: rest ∧
        (serve (after (Realm.next server serve) realm before).state connection).1 =
          some exchange ∧
        exchange.credential server = credential := by
  have hstep (realm : Realm σ P M C) (occurrence : Occurrence ι P M C) (_ : True)
      (hnext : credential ∈ (realm.next server serve occurrence).issued) :
      credential ∈ realm.issued ∨ occurrence = .issues credential ∨
        ∃ connection exchange, occurrence = .connects connection ∧
          (serve realm.state connection).1 = some exchange ∧
          exchange.credential server = credential := by
    cases occurrence with
    | issues issued =>
      refine (List.mem_append.mp hnext).imp_right fun hlast => .inl ?_
      rw [List.mem_singleton.mp hlast]
    | connects connection =>
      refine (List.mem_append.mp hnext).imp_right fun hlast => .inr ?_
      obtain ⟨exchange, hexchange, hcredential⟩ :=
        Option.map_eq_some_iff.mp (Option.mem_toList.mp hlast)
      exact ⟨connection, exchange, rfl, hexchange, hcredential⟩
  rcases exists_step_of_after (Realm.next server serve) (credential ∈ ·.issued) _ hstep
    (Meets.of_mem _ (fun _ _ => trivial) realm) h with hstart |
    ⟨before, _, rest, rfl, rfl | ⟨connection, exchange, rfl, hexchange⟩⟩
  · exact .inl hstart
  · exact .inr (.inl (by simp))
  · exact .inr (.inr ⟨before, connection, rest, exchange, rfl, hexchange⟩)

/-- A credential in circulation was there before, was issued in the run, or is the server's. -/
lemma Realm.issued_cases {realm : Realm σ P M C} {run : List (Occurrence ι P M C)}
    {credential : Credential P M C}
    (h : credential ∈ (after (Realm.next server serve) realm run).issued) :
    credential ∈ realm.issued ∨ .issues credential ∈ run ∨ credential.principal = server := by
  rcases Realm.exists_exchange server serve h with hstart | hissued | ⟨_, _, _, _, -, -, rfl⟩
  · exact .inl hstart
  · exact .inr (.inl hissued)
  · exact .inr (.inr rfl)

/-- What is expected of an occurrence: the server answers principals that it accepts, and what was
found in a credential, and nobody else puts what counts as an answer into a credential of its. -/
def Trusted (accepts : P → Prop) (belongs : M → M → Prop) (IsAnswer : M → Prop)
    (realm : Realm σ P M C) : Occurrence ι P M C → Prop
  | .issues credential => credential.principal = server → ¬ IsAnswer credential.message
  | .connects connection => ∀ exchange, (serve realm.state connection).1 = some exchange →
    accepts exchange.sender ∧ belongs exchange.question exchange.answer ∧
      ∃ text, ⟨exchange.sender, exchange.question, text⟩ ∈ realm.issued

section Trusted

variable {server serve} {accepts : P → Prop} {belongs : M → M → Prop} {IsAnswer : M → Prop}
  {state : σ} {run : List (Occurrence ι P M C)} {answer : M} {text : C}

/-- An answer of the server was given in an exchange, to a message of a principal that the server
accepts. -/
theorem Realm.exists_question
    (hrun : Meets (Realm.next server serve) (Trusted server serve accepts belongs IsAnswer)
      ⟨state, []⟩ run)
    (hanswer : IsAnswer answer)
    (h : ⟨server, answer, text⟩ ∈ (after (Realm.next server serve) ⟨state, []⟩ run).issued) :
    ∃ before connection rest exchange, run = before ++ Occurrence.connects connection :: rest ∧
      (serve (after (Realm.next server serve) ⟨state, []⟩ before).state connection).1 =
        some exchange ∧
      exchange.answer = answer ∧ exchange.text = text ∧ accepts exchange.sender ∧
      belongs exchange.question answer ∧
      ∃ text, ⟨exchange.sender, exchange.question, text⟩ ∈
        (after (Realm.next server serve) ⟨state, []⟩ run).issued := by
  rcases Realm.exists_exchange server serve h with hstart | hissued |
    ⟨before, connection, rest, exchange, rfl, hexchange, hcredential⟩
  · exact absurd hstart List.not_mem_nil
  · obtain ⟨before, rest, rfl⟩ := List.append_of_mem hissued
    exact absurd hanswer ((Meets.rest _ hrun).1 rfl)
  · obtain ⟨-, rfl, rfl⟩ := Credential.mk.inj hcredential
    obtain ⟨haccepts, hbelongs, text, hquestion⟩ := (Meets.rest _ hrun).1 exchange hexchange
    refine ⟨before, connection, rest, exchange, rfl, hexchange, rfl, rfl, haccepts, hbelongs, text,
      ?_⟩
    rw [after_append]
    exact Realm.issued_subset_after server serve _ _ hquestion

/-- If only one message of the principals that the server accepts can have the answer, the answer
was given to this message. -/
theorem Realm.question_eq
    (hrun : Meets (Realm.next server serve) (Trusted server serve accepts belongs IsAnswer)
      ⟨state, []⟩ run)
    (hanswer : IsAnswer answer)
    (h : ⟨server, answer, text⟩ ∈ (after (Realm.next server serve) ⟨state, []⟩ run).issued)
    {principal : P} {question : M}
    (hunique : ∀ credential ∈ (after (Realm.next server serve) ⟨state, []⟩ run).issued,
      accepts credential.principal → belongs credential.message answer →
        credential.principal = principal ∧ credential.message = question) :
    ∃ before connection rest text, run = before ++ Occurrence.connects connection :: rest ∧
      (serve (after (Realm.next server serve) ⟨state, []⟩ before).state connection).1 =
        some ⟨principal, question, answer, text⟩ := by
  obtain ⟨before, connection, rest, exchange, hrest, hexchange, rfl, -, haccepts, hbelongs, _,
    hissued⟩ := Realm.exists_question hrun hanswer h
  obtain ⟨rfl, rfl⟩ := hunique _ hissued haccepts hbelongs
  exact ⟨before, connection, rest, exchange.text, hrest, hexchange⟩

end Trusted

end Realms

end Interaction
