import ResumableSession.Proofs.Gateway.Lifecycle
import Mathlib.Data.List.Nodup
import Mathlib.Data.List.Perm.Basic

/-!
# Tokens of a gateway

A token that was issued is outstanding until it is presented or grows too old.  Whatever is
asked of a gateway and of its registry, each token goes one of these ways at most once, and
what is reported on the way is the tag that the token was issued for.
-/

namespace ResumableSession

variable {C : Type}

/-- Something that concerns the tokens of a gateway: what comes to the gateway itself, and
what may be asked of its registry alone. -/
inductive Errand (C : Type) where
  | input (input : GatewayInput C)
  | issue (token tag : String) (now : Duration)
  | redeem (token : String)
  | expire (now timeout : Duration)

/-- What an errand gives back: effects of the gateway, the tag of a token that was presented,
or the tags of those that were too old. -/
inductive TokenNews (C : Type) where
  | effect (effect : GatewayEffect C)
  | redeemed (tag : Option String)
  | expired (tags : List String)
deriving DecidableEq

/-- For how long a token has been outstanding; a clock that is behind makes no age. -/
def Binding.age (binding : Binding) (now : Duration) : Nat := now.nanos - binding.issuedAt.nanos

/-- Whether a token is at least as old as the timeout. -/
def Binding.isOld (now timeout : Duration) (binding : Binding) : Bool :=
  decide (timeout.nanos ≤ binding.age now)

namespace Registry

variable {T : Type} (registry : Registry T)

private theorem isExpired_eq (now timeout : Duration) :
    isExpired now timeout = Binding.isOld now timeout := by
  funext binding
  have bounded := now.bounded
  have less : now.nanos - binding.issuedAt.nanos < 0x10000000000000000 * 1000000000 := by omega
  have same : (now - binding.issuedAt).nanos = binding.age now :=
    Duration.nanos_ofNanos_of_lt less
  rw [isExpired, Binding.isOld, ← same]
  rfl

@[simp] theorem bindings_register (id : UInt32) (session : T) :
    (registry.register id session).1.bindings = registry.bindings := rfl

private theorem bindings_issueSessionId {id : UInt32} {issued : Registry T}
    (found : registry.issueSessionId = some (id, issued)) :
    issued.bindings = registry.bindings := by
  unfold issueSessionId at found
  split at found
  · cases found
    rfl
  · cases found

/-- No two outstanding tokens are the same, so at most one is the one that is presented. -/
theorem filter_token {bindings : List Binding} (distinct : (bindings.map (·.token)).Nodup)
    (token : String) :
    bindings.filter (fun binding => binding.token == token) =
      (bindings.find? fun binding => binding.token == token).toList := by
  induction bindings with
  | nil => rfl
  | cons head tail induction =>
      rw [List.map_cons, List.nodup_cons] at distinct
      by_cases here : (head.token == token) = true
      · have others : tail.filter (fun binding => binding.token == token) = [] := by
          rw [List.filter_eq_nil_iff]
          intro other member same
          apply distinct.1
          rw [eq_of_beq here, ← eq_of_beq same]
          exact List.mem_map_of_mem member
        simp only [List.filter_cons, List.find?_cons, here, others, if_true, Option.toList_some]
      · rw [Bool.not_eq_true] at here
        simpa only [List.filter_cons, List.find?_cons, here, if_false, Bool.false_eq_true]
          using induction distinct.2

private theorem find?_token {bindings : List Binding} (distinct : (bindings.map (·.token)).Nodup)
    {binding : Binding} (member : binding ∈ bindings) :
    bindings.find? (fun other => other.token == binding.token) = some binding := by
  have presented : binding ∈ bindings.filter fun other => other.token == binding.token := by
    simp [member]
  rwa [filter_token distinct, Option.mem_toList] at presented

end Registry

namespace Gateway

variable (gateway : Gateway)

/-- Does an errand. -/
def attend : Errand C → Gateway × List (TokenNews C)
  | .input input =>
      let (gateway, effects) := gateway.step input
      (gateway, effects.map .effect)
  | .issue token tag now =>
      ({ gateway with registry := gateway.registry.openBinding token tag now }, [])
  | .redeem token =>
      let (registry, tag) := gateway.registry.takeBinding token
      ({ gateway with registry }, [.redeemed tag])
  | .expire now timeout =>
      let (registry, tags) := gateway.registry.sweepBindings now timeout
      ({ gateway with registry }, [.expired tags])

/-- Does errands in order. -/
def attendAll (errands : List (Errand C)) : Gateway :=
  errands.foldl (fun gateway errand => (gateway.attend errand).1) gateway

private theorem bindings_createSession (connection : C) (token : String) :
    (gateway.createSession connection token).1.registry.bindings =
      if gateway.stopping then gateway.registry.bindings
      else (gateway.registry.takeBinding token).1.bindings := by
  unfold createSession
  by_cases stopping : gateway.stopping = true
  · simp only [if_pos stopping]
  · simp only [if_neg stopping]
    split
    · rfl
    · split
      · rfl
      · next id issued found =>
          rw [Registry.bindings_register]
          exact Registry.bindings_issueSessionId _ found

private theorem admits_of_opened {gateway : Gateway} {connection : C} {token : String} {id : UInt32}
    {tag : Option String}
    (opened : .report (.sessionOpened id tag) ∈ (gateway.createSession connection token).2) :
    gateway.stopping = false ∧ tag = (gateway.registry.takeBinding token).2 ∧
      (gateway.tokenRequired → (gateway.registry.takeBinding token).2.isSome) := by
  unfold createSession at opened
  split at opened
  · simp at opened
  · next running =>
      refine ⟨by simpa using running, ?_⟩
      simp only at opened
      split at opened
      · simp at opened
      · next admitted =>
          split at opened
          · simp at opened
          · simp only [List.mem_cons, reduceCtorEq, GatewayEffect.report.injEq,
              GatewayEvent.sessionOpened.injEq, List.not_mem_nil, or_false, false_or] at opened
            refine ⟨opened.2, ?_⟩
            intro required
            rw [Option.isSome_iff_ne_none]
            simpa [required] using admitted

private theorem createSession_refused {gateway : Gateway} (connection : C) {token : String}
    (refused : gateway.stopping ∨
      gateway.tokenRequired ∧ (gateway.registry.takeBinding token).2 = none) :
    (gateway.createSession connection token).2 = [.refuse connection] := by
  unfold createSession
  rcases refused with stopping | ⟨required, unknown⟩
  · rw [if_pos stopping]
  · split
    · rfl
    · simp [required, unknown]

end Gateway

/-- An errand, and the gateway that it comes to. -/
structure Deed (C : Type) where
  gateway : Gateway
  errand : Errand C

/-- Errands in order, each with the gateway that the ones before have made. -/
def Gateway.deeds (gateway : Gateway) : List (Errand C) → List (Deed C)
  | [] => []
  | errand :: errands => ⟨gateway, errand⟩ :: (gateway.attend errand).1.deeds errands

namespace Deed

variable (deed : Deed C)

def after : Gateway := (deed.gateway.attend deed.errand).1

def news : List (TokenNews C) := (deed.gateway.attend deed.errand).2

/-- The tokens that are outstanding before. -/
def outstanding : List Binding := deed.gateway.registry.bindings

/-- The token that is issued.  A gateway that has ended issues none. -/
def issued : List Binding :=
  match deed.errand with
  | .issue token tag now => [⟨token, tag, now⟩]
  | .input (.openBinding token tag now) =>
      if deed.gateway.isFinished then [] else [⟨token, tag, now⟩]
  | _ => []

/-- The tokens that are outstanding before and no longer after. -/
def spent : List Binding :=
  deed.outstanding.filter fun binding => binding ∉ deed.after.registry.bindings

/-- Whether tokens are looked for that are too old. -/
def isSweep : Bool :=
  match deed.errand with
  | .expire .. | .input (.sweep _) => true
  | _ => false

/-- The tokens that are used up by presenting them. -/
def taken : List Binding := if deed.isSweep then [] else deed.spent

/-- The tokens that are dropped for their age. -/
def swept : List Binding := if deed.isSweep then deed.spent else []

/-- The token that is presented. -/
def presented? : Option String :=
  match deed.errand with
  | .redeem token | .input (.handshake _ (.create token)) => some token
  | _ => none

/-- What an errand does with the tokens is what it says. -/
structure Honest : Prop where
  takes : ∀ binding ∈ deed.taken, deed.presented? = some binding.token
  redeems : ∀ token, deed.errand = .redeem token →
    (∀ binding ∈ deed.outstanding, binding.token = token → deed.taken = [binding]) ∧
      deed.news = [.redeemed (deed.taken.head?.map (·.tag))]
  expires : ∀ now timeout, deed.errand = .expire now timeout →
    deed.swept = deed.outstanding.filter (·.isOld now timeout) ∧
      deed.news = [.expired (deed.swept.map (·.tag))]
  sweeps : ∀ now, deed.errand = .input (.sweep now) → deed.gateway.isFinished = false →
    deed.swept = deed.outstanding.filter (·.isOld now deed.gateway.tokenTimeout) ∧
      deed.news = deed.swept.map fun binding => .effect (.report (.bindingTimedOut binding.tag))
  spares : ∀ binding ∈ deed.outstanding, binding ∉ deed.spent →
    (deed.after.registry.takeBinding binding.token).2 = some binding.tag
  opens : ∀ id tag, .effect (.report (.sessionOpened id tag)) ∈ deed.news →
    tag = deed.taken.head?.map (·.tag) ∧
      (deed.gateway.tokenRequired → ∃ binding ∈ deed.outstanding, deed.taken = [binding])
  refuses : ∀ connection token, deed.errand = .input (.handshake connection (.create token)) →
    deed.gateway.stopping ∨
      deed.gateway.tokenRequired ∧ (∀ binding ∈ deed.outstanding, binding.token ≠ token) →
    deed.news ⊆ [.effect (.refuse connection)] ∧
      deed.after.registry.bindings = deed.outstanding

/-- Whether an errand lets go of a token that is outstanding. -/
def drops (binding : Binding) : Bool :=
  match deed.errand with
  | .issue token _ _ | .redeem token => binding.token == token
  | .expire now timeout => binding.isOld now timeout
  | .input (.handshake _ (.create token)) => !deed.gateway.stopping && binding.token == token
  | .input (.openBinding token _ _) => !deed.gateway.isFinished && binding.token == token
  | .input (.sweep now) =>
      !deed.gateway.isFinished && binding.isOld now deed.gateway.tokenTimeout
  | _ => false

private theorem bindings_after :
    deed.after.registry.bindings =
      deed.outstanding.filter (fun binding => !deed.drops binding) ++ deed.issued := by
  obtain ⟨gateway, errand⟩ := deed
  cases errand with
  | issue token tag now => rfl
  | redeem token => exact (List.append_nil _).symm
  | expire now timeout =>
      rw [after, Gateway.attend, Registry.sweepBindings, Registry.isExpired_eq]
      exact (List.append_nil _).symm
  | input input =>
      have kept : gateway.registry.bindings =
          gateway.registry.bindings.filter (fun _ => !false) ++ [] := by simp
      by_cases finished : gateway.isFinished = true
      · have stopping : gateway.stopping = true := (Gateway.isFinished_iff.mp finished).1
        rw [after, Gateway.attend, Gateway.step, if_pos finished]
        cases input with
        | handshake connection handshake =>
            cases handshake <;> simp [outstanding, drops, issued, stopping]
        | _ => simp [outstanding, drops, issued, finished]
      · rw [after, Gateway.attend, Gateway.step, if_neg finished]
        rw [Bool.not_eq_true] at finished
        cases input with
        | handshake connection handshake =>
            cases handshake with
            | create token =>
                rw [Gateway.handle, Gateway.bindings_createSession]
                cases stopping : gateway.stopping <;>
                  simp [outstanding, drops, issued, stopping, Registry.takeBinding, bne]
            | rebind => exact kept
        | openBinding token tag now =>
            simp [Gateway.handle, outstanding, drops, issued, finished, Registry.openBinding, bne]
        | sweep now =>
            simp [Gateway.handle, outstanding, drops, issued, finished, Registry.sweepBindings,
              Registry.isExpired_eq]
        | _ => exact kept

section

variable {deed : Deed C}

/-- The token that is issued is not outstanding, and no two that are outstanding are the same. -/
def Distinct (deed : Deed C) : Prop := ((deed.outstanding ++ deed.issued).map (·.token)).Nodup

private theorem head?_toList (found : Option Binding) : found.toList.head? = found := by
  cases found <;> rfl

private theorem creates_of_opened {id : UInt32} {tag : Option String}
    (opened : .effect (.report (.sessionOpened id tag)) ∈ deed.news) :
    ∃ connection token, deed.errand = .input (.handshake connection (.create token)) ∧
      deed.gateway.stopping = false ∧ tag = (deed.gateway.registry.takeBinding token).2 ∧
      (deed.gateway.tokenRequired →
        (deed.gateway.registry.takeBinding token).2.isSome) := by
  obtain ⟨gateway, errand⟩ := deed
  cases errand with
  | input input =>
      simp only [news, Gateway.attend, List.mem_map, TokenNews.effect.injEq, exists_eq_right]
        at opened
      unfold Gateway.step at opened
      split at opened
      · cases opened
      · cases input with
        | handshake connection handshake =>
            cases handshake with
            | create token =>
                exact ⟨connection, token, rfl, Gateway.admits_of_opened opened⟩
            | rebind id index ack =>
                simp only [Gateway.handle, Gateway.routeRebind] at opened
                split at opened <;> simp at opened
        | stop listenOnly => cases listenOnly <;> simp [Gateway.handle] at opened
        | _ => simp [Gateway.handle] at opened
  | _ => simp [news, Gateway.attend] at opened

/-- A client that is refused for its token, or because the gateway stops, uses none up. -/
theorem refuses {connection : C} {token : String}
    (created : deed.errand = .input (.handshake connection (.create token)))
    (refused : deed.gateway.stopping ∨
      deed.gateway.tokenRequired ∧ ∀ binding ∈ deed.outstanding, binding.token ≠ token) :
    deed.news ⊆ [.effect (.refuse connection)] ∧
      deed.after.registry.bindings = deed.outstanding := by
  constructor
  · have given : deed.news =
        (deed.gateway.step (.handshake connection (.create token))).2.map .effect := by
      rw [news, created]
      rfl
    rw [given, Gateway.step]
    split
    · exact List.nil_subset _
    · have unknown : deed.gateway.stopping ∨ deed.gateway.tokenRequired ∧
          (deed.gateway.registry.takeBinding token).2 = none := by
        refine refused.imp_right (And.imp_right fun absent => ?_)
        rw [Registry.takeBinding, Option.map_eq_none_iff, List.find?_eq_none]
        intro binding old same
        exact absent binding old (eq_of_beq same)
      rw [Gateway.handle, Gateway.createSession_refused connection unknown]
      exact List.Subset.refl _
  · have kept : deed.outstanding.filter (fun binding => !deed.drops binding) =
        deed.outstanding := by
      rw [List.filter_eq_self]
      intro binding old
      rcases refused with stopping | ⟨_, absent⟩
      · simp [drops, created, stopping]
      · simp [drops, created, absent binding old]
    have none : deed.issued = [] := by rw [issued, created]
    rw [deed.bindings_after, kept, none, List.append_nil]

namespace Distinct

variable (distinct : deed.Distinct)

include distinct

theorem outstanding : (deed.outstanding.map (·.token)).Nodup := by
  rw [Distinct, List.map_append, List.nodup_append] at distinct
  exact distinct.1

private theorem token_ne {binding fresh : Binding} (old : binding ∈ deed.outstanding)
    (new : fresh ∈ deed.issued) : binding.token ≠ fresh.token := by
  rw [Distinct, List.map_append, List.nodup_append] at distinct
  exact distinct.2.2 _ (List.mem_map_of_mem old) _ (List.mem_map_of_mem new)

private theorem spent_eq : deed.spent = deed.outstanding.filter deed.drops := by
  apply List.filter_congr
  intro binding old
  have other : binding ∉ deed.issued := fun new => distinct.token_ne old new rfl
  have gone : binding ∉ deed.after.registry.bindings ↔ deed.drops binding = true := by
    rw [deed.bindings_after, List.mem_append, List.mem_filter]
    simp [old, other]
  simp only [gone, Bool.decide_eq_true]

/-- Every token that was outstanding or is issued is spent or outstanding after. -/
theorem conserves :
    (deed.outstanding ++ deed.issued).Perm (deed.spent ++ deed.after.registry.bindings) := by
  rw [distinct.spent_eq, deed.bindings_after, ← List.append_assoc]
  exact (List.filter_append_perm _ _).symm.append_right _

private theorem taken_eq (presenting : deed.isSweep = false) :
    deed.taken = deed.outstanding.filter deed.drops := by
  rw [taken, if_neg (by simp [presenting]), distinct.spent_eq]

private theorem swept_eq (sweep : deed.isSweep = true) :
    deed.swept = deed.outstanding.filter deed.drops := by
  rw [swept, if_pos sweep, distinct.spent_eq]

theorem takes {binding : Binding} (member : binding ∈ deed.taken) :
    deed.presented? = some binding.token := by
  have presenting : deed.isSweep = false := by
    by_contra sweep
    rw [taken, if_pos (by simpa using sweep)] at member
    cases member
  rw [distinct.taken_eq presenting, List.mem_filter] at member
  obtain ⟨old, dropped⟩ := member
  have new (fresh : Binding) (given : fresh ∈ deed.issued) : binding.token ≠ fresh.token :=
    distinct.token_ne old given
  obtain ⟨gateway, errand⟩ := deed
  cases errand with
  | issue token tag now => exact absurd (eq_of_beq dropped) (new _ List.mem_cons_self)
  | redeem token => exact congrArg some (eq_of_beq dropped).symm
  | expire now timeout => cases presenting
  | input input =>
      cases input with
      | handshake connection handshake =>
          cases handshake with
          | create token =>
              rw [drops, Bool.and_eq_true] at dropped
              exact congrArg some (eq_of_beq dropped.2).symm
          | rebind => cases dropped
      | openBinding token tag now =>
          simp only [drops, Bool.and_eq_true, Bool.not_eq_true', beq_iff_eq] at dropped
          refine absurd dropped.2 (new ⟨token, tag, now⟩ ?_)
          simp [issued, dropped.1]
      | sweep now => cases presenting
      | _ => cases dropped

theorem spares {binding : Binding} (old : binding ∈ deed.outstanding)
    (unspent : binding ∉ deed.spent) :
    (deed.after.registry.takeBinding binding.token).2 = some binding.tag := by
  have unique : (deed.after.registry.bindings.map (·.token)).Nodup := by
    have parts := (distinct.conserves.map Binding.token).nodup_iff.mp distinct
    rw [List.map_append, List.nodup_append] at parts
    exact parts.2.1
  have left : binding ∈ deed.after.registry.bindings := by
    have either := distinct.conserves.mem_iff.mp (List.mem_append_left _ old)
    exact (List.mem_append.mp either).resolve_left unspent
  rw [Registry.takeBinding, Registry.find?_token unique left]
  rfl

private theorem redeems {token : String} (presents : deed.errand = .redeem token) :
    (∀ binding ∈ deed.outstanding, binding.token = token → deed.taken = [binding]) ∧
      deed.news = [.redeemed (deed.taken.head?.map (·.tag))] := by
  have unique := distinct.outstanding
  have taken : deed.taken =
      (deed.outstanding.find? fun binding => binding.token == token).toList := by
    rw [distinct.taken_eq (by simp [isSweep, presents]), ← Registry.filter_token unique]
    apply List.filter_congr
    intro binding _
    simp only [drops, presents]
  constructor
  · intro binding old same
    rw [taken, ← same, Registry.find?_token unique old]
    rfl
  · rw [taken, news, presents, head?_toList]
    rfl

theorem expires {now timeout : Duration} (expiring : deed.errand = .expire now timeout) :
    deed.swept = deed.outstanding.filter (·.isOld now timeout) ∧
      deed.news = [.expired (deed.swept.map (·.tag))] := by
  have swept : deed.swept = deed.outstanding.filter (·.isOld now timeout) := by
    rw [distinct.swept_eq (by simp [isSweep, expiring])]
    apply List.filter_congr
    intro binding _
    simp only [drops, expiring]
  refine ⟨swept, ?_⟩
  rw [swept, news, expiring, Gateway.attend, Registry.sweepBindings, Registry.isExpired_eq]
  rfl

theorem sweeps {now : Duration} (sweeping : deed.errand = .input (.sweep now))
    (running : deed.gateway.isFinished = false) :
    deed.swept = deed.outstanding.filter (·.isOld now deed.gateway.tokenTimeout) ∧
      deed.news =
        deed.swept.map fun binding => .effect (.report (.bindingTimedOut binding.tag)) := by
  have swept : deed.swept =
      deed.outstanding.filter (·.isOld now deed.gateway.tokenTimeout) := by
    rw [distinct.swept_eq (by simp [isSweep, sweeping])]
    apply List.filter_congr
    intro binding _
    simp only [drops, sweeping, running, Bool.not_false, Bool.true_and]
  refine ⟨swept, ?_⟩
  rw [swept, news, sweeping, Gateway.attend, Gateway.step,
    if_neg (by simp [running]), Gateway.handle, Registry.sweepBindings, Registry.isExpired_eq]
  simp only [List.map_map]
  rfl

theorem opens {id : UInt32} {tag : Option String}
    (opened : .effect (.report (.sessionOpened id tag)) ∈ deed.news) :
    tag = deed.taken.head?.map (·.tag) ∧
      (deed.gateway.tokenRequired → ∃ binding ∈ deed.outstanding, deed.taken = [binding]) := by
  obtain ⟨connection, token, created, running, rfl, admitted⟩ := creates_of_opened opened
  have taken : deed.taken =
      (deed.outstanding.find? fun binding => binding.token == token).toList := by
    rw [distinct.taken_eq (by simp [isSweep, created]),
      ← Registry.filter_token distinct.outstanding]
    apply List.filter_congr
    intro binding _
    simp only [drops, created, running, Bool.not_false, Bool.true_and]
  constructor
  · rw [taken, head?_toList]
    rfl
  · intro required
    obtain ⟨tag, found⟩ := Option.isSome_iff_exists.mp (admitted required)
    obtain ⟨binding, found, _⟩ := Option.map_eq_some_iff.mp found
    refine ⟨binding, List.mem_of_find?_eq_some found, ?_⟩
    rw [taken]
    exact congrArg Option.toList found

theorem honest : deed.Honest where
  takes := fun _ => distinct.takes
  redeems := fun _ => distinct.redeems
  expires := fun _ _ => distinct.expires
  sweeps := fun _ => distinct.sweeps
  spares := fun _ => distinct.spares
  opens := fun _ _ => distinct.opens
  refuses := fun _ _ => refuses

end Distinct

end

end Deed

namespace Gateway

variable {gateway : Gateway} {errands : List (Errand C)}

/-- The tokens that are issued by errands, oldest first. -/
def issuedIn (gateway : Gateway) (errands : List (Errand C)) : List Binding :=
  (gateway.deeds errands).flatMap Deed.issued

def takenIn (gateway : Gateway) (errands : List (Errand C)) : List Binding :=
  (gateway.deeds errands).flatMap Deed.taken

def sweptIn (gateway : Gateway) (errands : List (Errand C)) : List Binding :=
  (gateway.deeds errands).flatMap Deed.swept

/-- What becomes of the tokens of a gateway. -/
structure Settles (gateway : Gateway) (errands : List (Errand C)) : Prop where
  /-- A token that was issued was taken, was swept or is outstanding. -/
  accounted : (gateway.issuedIn errands).Perm
    (gateway.takenIn errands ++ gateway.sweptIn errands ++
      (gateway.attendAll errands).registry.bindings)
  /-- It is so only once. -/
  once : ((gateway.takenIn errands ++ gateway.sweptIn errands ++
    (gateway.attendAll errands).registry.bindings).map (·.token)).Nodup
  counted : (gateway.issuedIn errands).length = (gateway.takenIn errands).length +
    (gateway.sweptIn errands).length + (gateway.attendAll errands).registry.bindings.length
  honest : ∀ deed ∈ gateway.deeds errands, deed.Honest

private theorem spent_perm (deed : Deed C) : deed.spent.Perm (deed.taken ++ deed.swept) := by
  unfold Deed.taken Deed.swept
  split
  · exact .refl _
  · rw [List.append_nil]

/-- Errands account for the tokens that were outstanding before and those that they issue. -/
theorem settle (errands : List (Errand C)) :
    ∀ gateway : Gateway,
      ((gateway.registry.bindings ++ gateway.issuedIn errands).map (·.token)).Nodup →
      (gateway.registry.bindings ++ gateway.issuedIn errands).Perm
          (gateway.takenIn errands ++ gateway.sweptIn errands ++
            (gateway.attendAll errands).registry.bindings) ∧
        ∀ deed ∈ gateway.deeds errands, deed.Honest := by
  induction errands with
  | nil =>
      intro gateway _
      constructor
      · simp [issuedIn, takenIn, sweptIn, deeds, attendAll]
      · simp [deeds]
  | cons errand errands induction =>
      intro gateway fresh
      let deed : Deed C := ⟨gateway, errand⟩
      have issued : gateway.issuedIn (errand :: errands) =
          deed.issued ++ deed.after.issuedIn errands := rfl
      have taken : gateway.takenIn (errand :: errands) =
          deed.taken ++ deed.after.takenIn errands := rfl
      have swept : gateway.sweptIn (errand :: errands) =
          deed.swept ++ deed.after.sweptIn errands := rfl
      have final : gateway.attendAll (errand :: errands) = deed.after.attendAll errands := rfl
      rw [issued, ← List.append_assoc] at fresh ⊢
      have distinct : deed.Distinct := by
        rw [List.map_append, List.nodup_append] at fresh
        exact fresh.1
      have moved := (distinct.conserves.append_right (deed.after.issuedIn errands))
      have later : ((deed.after.registry.bindings ++ deed.after.issuedIn errands).map
          (·.token)).Nodup := by
        have parts := (moved.map Binding.token).nodup_iff.mp fresh
        rw [List.append_assoc, List.map_append, List.nodup_append] at parts
        exact parts.2.1
      obtain ⟨accounted, honest⟩ := induction deed.after later
      constructor
      · have total := moved.trans
          (((spent_perm deed).append_right _).append_right _)
        rw [List.perm_iff_count] at total accounted ⊢
        intro binding
        have here := total binding
        have there := accounted binding
        simp only [taken, swept, final, List.count_append] at here there ⊢
        exact here.trans (by omega)
      · intro other member
        rcases List.mem_cons.mp member with rfl | after
        · exact distinct.honest
        · exact honest other after

/-- Whatever is asked of a gateway and its registry, as long as no token is issued twice:
every token is taken by who presents it, swept for its age or outstanding, and only one of
these, and what is said of it is its tag. -/
theorem run_settles {Address : Type} (settings : GatewaySettings Address)
    (errands : List (Errand C))
    (fresh : (((ofSettings settings).issuedIn errands).map (·.token)).Nodup) :
    (ofSettings settings).Settles errands := by
  obtain ⟨accounted, honest⟩ := settle errands (ofSettings settings) fresh
  change ((ofSettings settings).issuedIn errands).Perm _ at accounted
  constructor
  case accounted => exact accounted
  case once => exact (accounted.map Binding.token).nodup_iff.mp fresh
  case counted =>
    rw [accounted.length_eq, List.length_append, List.length_append]
  case honest => exact honest

/-- Tokens that are issued, presented to the gateway and to its registry, and swept. -/
def handedOut : List (Errand Nat) :=
  [.issue "a" "ann" (.ofSeconds 0), .input (.openBinding "b" "bob" (.ofSeconds 5)),
    .issue "c" "ann" (.ofSeconds 20), .input (.handshake 0 (.create "x")),
    .input (.handshake 1 (.create "b")), .input (.handshake 2 (.create "b")), .redeem "c",
    .expire (.ofSeconds 3) (.ofSeconds 4), .input (.sweep (.ofSeconds 31)), .redeem "a"]

theorem handedOut_settles :
    (((ofSettings ({ listen := (), tokenRequired := true } : GatewaySettings Unit)).issuedIn
        handedOut).map (·.token)).Nodup ∧
      (ofSettings ({ listen := (), tokenRequired := true } : GatewaySettings Unit)).Settles
        handedOut :=
  have fresh : (((ofSettings ({ listen := (), tokenRequired := true } :
      GatewaySettings Unit)).issuedIn handedOut).map (·.token)).Nodup := by decide +kernel
  ⟨fresh, run_settles _ handedOut fresh⟩

end Gateway

end ResumableSession
