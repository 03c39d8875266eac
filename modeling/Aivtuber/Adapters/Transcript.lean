import Aivtuber.Adapters.Session

/-!
# Transcripts of websocket sessions

What the log of an adapter says: nothing is done with a connection after it was closed, and every
connection but the current one is closed (`Tidy`); what is said on a connection (`Talk`); and that
what was returned and what waits is what was heard, in the order of arrival (`InOrder`).
-/

namespace Aivtuber.Adapters

/-! ## Tidy sessions -/

/-- Nothing is done with a connection after it was closed, and every connection but the current
one is closed. -/
structure Tidy {μ : Type} (log : List (Action μ)) (connections : Nat) (transport : Option Nat) :
    Prop where
  current : ∀ c ∈ transport, c < connections ∧ Action.closed c ∉ log
  rest : ∀ c < connections, c ∈ transport ∨ Action.closed c ∈ log
  known : ∀ action ∈ log, ∀ c, action.On c ∨ action = .closed c → c < connections
  quiet : log.Pairwise fun earlier later ↦ ∀ c, earlier = .closed c → ¬ later.On c

namespace Tidy

variable {μ : Type} {log new : List (Action μ)} {connections connection : Nat}
  {transport : Option Nat}

theorem empty : Tidy ([] : List (Action μ)) 0 none where
  current _ hc := absurd hc (Option.not_mem_none _)
  rest _ hc := absurd hc (Nat.not_lt_zero _)
  known _ haction := absurd haction List.not_mem_nil
  quiet := List.Pairwise.nil

/-- What is done with the current connection. -/
theorem talk (h : Tidy log connections (some connection))
    (hon : ∀ action ∈ new, action.On connection) :
    Tidy (log ++ new) connections (some connection) := by
  obtain ⟨hlt, hopen⟩ := h.current connection rfl
  have honly : ∀ action ∈ new, ∀ c, action.On c → c = connection := by
    intro action haction c hc
    have hused := hon action haction
    cases action <;> first | exact hc.symm.trans hused | exact hc.elim
  have hnever : ∀ c, Action.closed c ∉ new := fun c hmem ↦ hon _ hmem
  constructor
  · rintro c ⟨⟩
    refine ⟨hlt, fun hmem ↦ ?_⟩
    rcases List.mem_append.mp hmem with hold | hnew
    · exact hopen hold
    · exact hnever _ hnew
  · intro c hc
    exact (h.rest c hc).imp_right (List.mem_append_left _)
  · intro action haction c huses
    rcases List.mem_append.mp haction with hold | hnew
    · exact h.known action hold c huses
    · rcases huses with huses | rfl
      · rw [honly action hnew c huses]
        exact hlt
      · exact absurd hnew (hnever c)
  · refine List.pairwise_append.mpr ⟨h.quiet, ?_, ?_⟩
    · refine List.pairwise_of_forall_mem_list fun earlier hearlier later _ c hclosed ↦ ?_
      rw [hclosed] at hearlier
      exact absurd hearlier (hnever c)
    · intro earlier hearlier later hlater c hclosed hused
      rw [honly later hlater c hused] at hclosed
      rw [hclosed] at hearlier
      exact hopen hearlier

/-- What is not done with a connection. -/
theorem note {action : Action μ} (h : Tidy log connections transport)
    (hunused : ∀ c, ¬ action.On c) (hclosed : ∀ c, action ≠ .closed c) :
    Tidy (log ++ [action]) connections transport := by
  constructor
  · intro c hc
    refine ⟨(h.current c hc).1, fun hmem ↦ ?_⟩
    rcases List.mem_append.mp hmem with hold | hnew
    · exact (h.current c hc).2 hold
    · exact hclosed c (List.mem_singleton.mp hnew).symm
  · exact fun c hc ↦ (h.rest c hc).imp_right (List.mem_append_left _)
  · intro other hother c huses
    rcases List.mem_append.mp hother with hold | hnew
    · exact h.known other hold c huses
    · rw [List.mem_singleton.mp hnew] at huses
      exact absurd huses (not_or_intro (hunused c) (hclosed c))
  · refine List.pairwise_append.mpr ⟨h.quiet, List.pairwise_singleton _ _, ?_⟩
    intro earlier _ later hlater c _
    rw [List.mem_singleton.mp hlater]
    exact hunused c

theorem connect (h : Tidy log connections none) :
    Tidy (log ++ [.connected connections]) (connections + 1) (some connections) := by
  have hnoted : Tidy (log ++ [.connected connections]) connections none :=
    h.note (fun _ huse ↦ huse) fun _ heq ↦ by cases heq
  constructor
  · rintro c ⟨⟩
    refine ⟨Nat.lt_succ_self _, fun hmem ↦ ?_⟩
    exact Nat.lt_irrefl _ (hnoted.known _ hmem _ (Or.inr rfl))
  · intro c hc
    rcases Nat.lt_succ_iff_lt_or_eq.mp hc with hlt | rfl
    · exact Or.inr ((hnoted.rest c hlt).resolve_left (Option.not_mem_none _))
    · exact Or.inl rfl
  · exact fun action haction c huses ↦ Nat.lt_succ_of_lt (hnoted.known action haction c huses)
  · exact hnoted.quiet

theorem close (h : Tidy log connections (some connection)) :
    Tidy (log ++ [.closed connection]) connections none := by
  obtain ⟨hlt, hopen⟩ := h.current connection rfl
  constructor
  · exact fun _ hc ↦ absurd hc (Option.not_mem_none _)
  · intro c hc
    right
    rcases h.rest c hc with hcurrent | hclosed
    · rw [Option.some.inj hcurrent]
      exact List.mem_append_right _ (List.mem_singleton_self _)
    · exact List.mem_append_left _ hclosed
  · intro action haction c huses
    rcases List.mem_append.mp haction with hold | hnew
    · exact h.known action hold c huses
    · rw [List.mem_singleton.mp hnew] at huses
      rcases huses with huses | heq
      · exact huses.elim
      · cases heq
        exact hlt
  · refine List.pairwise_append.mpr ⟨h.quiet, List.pairwise_singleton _ _, ?_⟩
    intro earlier _ later hlater c _
    rw [List.mem_singleton.mp hlater]
    exact fun hused ↦ hused

end Tidy

/-! ## What is said on a connection -/

section Talk

variable {μ σ α : Type}

/-- The events among what was read. -/
def heard (hear : String → Option AdapterEvent) (log : List (Action μ)) : List AdapterEvent :=
  log.filterMap fun
    | .received _ text => hear text
    | _ => none

/-- The events that were returned. -/
def returned (log : List (Action μ)) : List AdapterEvent :=
  log.filterMap fun
    | .returned event => some event
    | _ => none

/-- The messages that were sent, with their connections. -/
def sends (log : List (Action μ)) : List (Nat × μ) :=
  log.filterMap fun
    | .sent connection message => some (connection, message)
    | _ => none

/-- What was done between two states, on one connection. -/
structure Talk (connection : Nat) (s s' : Session μ σ) (new : List (Action μ)) : Prop where
  log : s'.log = s.log ++ new
  on : ∀ action ∈ new, action.On connection
  connections : s'.connections = s.connections

variable {connection : Nat} {s s' s'' : Session μ σ} {new new' : List (Action μ)}
  {hear : String → Option AdapterEvent}

theorem heard_append (l l' : List (Action μ)) :
    heard hear (l ++ l') = heard hear l ++ heard hear l' := List.filterMap_append

theorem returned_append (l l' : List (Action μ)) :
    returned (l ++ l') = returned l ++ returned l' := List.filterMap_append

theorem sends_append (l l' : List (Action μ)) : sends (l ++ l') = sends l ++ sends l' :=
  List.filterMap_append

theorem Talk.refl (connection : Nat) (s : Session μ σ) : Talk connection s s [] :=
  ⟨(List.append_nil _).symm, fun _ haction ↦ absurd haction List.not_mem_nil, rfl⟩

theorem Talk.trans (h : Talk connection s s' new) (h' : Talk connection s' s'' new') :
    Talk connection s s'' (new ++ new') where
  log := by rw [h'.log, h.log, List.append_assoc]
  on action haction := (List.mem_append.mp haction).elim (h.on action) (h'.on action)
  connections := h'.connections.trans h.connections

/-- Nothing is returned on a connection. -/
theorem Talk.returned (h : Talk connection s s' new) : returned new = [] := by
  refine List.filterMap_eq_nil_iff.mpr fun action haction ↦ ?_
  have hon := h.on action haction
  cases action <;> first | rfl | exact hon.elim

/-- A message was heard, or is no event. -/
def hearing (peer : Peer μ) (parseEvent : JsonValue → Option AdapterEvent) (text : String) :
    Option AdapterEvent :=
  (peer.parse text).toOption.bind parseEvent

/-! ## What a call does -/

/-- What is returned, and what waits, is what was heard, in the order of arrival. -/
def InOrder (hear : String → Option AdapterEvent) (s : Session μ σ) : Prop :=
  returned s.log ++ s.events = heard hear s.log

def Session.IsTidy (s : Session μ σ) : Prop := Tidy s.log s.connections s.transport

/-- The messages that carry actions. -/
def actionSends (isAction : μ → Bool) (log : List (Action μ)) : List (Nat × μ) :=
  (sends log).filter fun entry ↦ isAction entry.2

/-- What an adapter did: some of it is a call, or a part of one. -/
structure Did (hear : String → Option AdapterEvent) (Orderly : Prop) (s s' : Session μ σ)
    (new : List (Action μ)) : Prop where
  log : s'.log = s.log ++ new
  tidy : s.IsTidy → s'.IsTidy
  order : Orderly → InOrder hear s → InOrder hear s'

variable {Orderly Orderly' : Prop} {isAction : μ → Bool}

theorem actionSends_append (l l' : List (Action μ)) :
    actionSends isAction (l ++ l') = actionSends isAction l ++ actionSends isAction l' := by
  rw [actionSends, sends_append, List.filter_append]
  rfl

theorem actionSends_of_sends (h : sends new = []) : actionSends isAction new = [] := by
  rw [actionSends, h]
  rfl

theorem Did.refl (s : Session μ σ) : Did hear Orderly s s [] :=
  ⟨(List.append_nil _).symm, id, fun _ h ↦ h⟩

theorem Did.trans (h : Did hear Orderly s s' new) (h' : Did hear Orderly s' s'' new') :
    Did hear Orderly s s'' (new ++ new') where
  log := by rw [h'.log, h.log, List.append_assoc]
  tidy htidy := h'.tidy (h.tidy htidy)
  order horderly horder := h'.order horderly (h.order horderly horder)

theorem Did.mono (h : Did hear Orderly s s' new) (himp : Orderly' → Orderly) :
    Did hear Orderly' s s' new :=
  ⟨h.log, h.tidy, fun horderly ↦ h.order (himp horderly)⟩

/-- What is queued as it is heard stays in order. -/
theorem InOrder.append (h : InOrder hear s) (hlog : s'.log = s.log ++ new)
    (hreturned : returned new = []) (hevents : s'.events = s.events ++ heard hear new) :
    InOrder hear s' := by
  rw [InOrder, hlog, hevents, returned_append, hreturned, List.append_nil, heard_append,
    ← List.append_assoc]
  exact congrArg (· ++ heard hear new) h

/-- Something that is no event is done with the current connection. -/
theorem Did.said {action : Action μ} (htransport : s.transport = some connection)
    (hon : action.On connection) (hsilent : heard hear [action] = []) :
    Did hear Orderly s (s.note action) [action] := by
  refine ⟨rfl, fun htidy ↦ ?_, fun _ h ↦ ?_⟩
  · rw [Session.IsTidy, htransport] at htidy
    change Tidy (s.log ++ [action]) s.connections s.transport
    rw [htransport]
    exact htidy.talk fun other hother ↦ by rw [List.mem_singleton.mp hother]; exact hon
  · refine h.append rfl ?_ ?_
    · cases action <;> first | rfl | exact hon.elim
    · rw [hsilent, List.append_nil]
      rfl

/-- A call begins. -/
theorem Did.called (s : Session μ σ) : Did hear Orderly s (s.note .called) [.called] where
  log := rfl
  tidy htidy := Tidy.note htidy (fun _ huse ↦ huse) fun _ heq ↦ by cases heq
  order _ h := h.append rfl rfl (List.append_nil _).symm

end Talk

end Aivtuber.Adapters
