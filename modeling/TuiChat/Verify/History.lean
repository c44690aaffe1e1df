import TuiChat.Lib.Keyset
import TuiChat.Client.Effects
import TuiChat.Verify.Scenario
import Mathlib.Data.String.Basic

/-!
# Paging through a conversation

The page that `messages` gives, and those that `messages_before` gives from the oldest message loaded,
are all messages of the conversation, each once and in order (`history_partitions`), also where messages
have one time; and `history_exhausted` is set only when all of them are loaded.
-/

namespace TuiChat

open Lib
open Lib.Prog (wp)

variable {P : Primitives} {env : Environment}

/-- `(sent_at_ms, logical_message_id)`, strictly. -/
def ChatMessage.Precedes (a b : ChatMessage) : Prop :=
  a.sentAtMs < b.sentAtMs ∨ (a.sentAtMs = b.sentAtMs ∧ a.id < b.id)

namespace Store

variable {s : Store P} {c : String}

/-! ## The order -/

theorem messageOrder_iff {a b : ChatMessage} :
    messageOrder a b = true ↔ a.sentAtMs < b.sentAtMs ∨ (a.sentAtMs = b.sentAtMs ∧ a.id ≤ b.id) := by
  simp [messageOrder]

instance : Std.Total fun a b => messageOrder a b = true := by
  constructor
  intro a b
  rw [messageOrder_iff, messageOrder_iff]
  rcases lt_trichotomy a.sentAtMs b.sentAtMs with hlt | heq | hgt
  · exact .inl (.inl hlt)
  · exact (le_total a.id b.id).imp (fun h => .inr ⟨heq, h⟩) fun h => .inr ⟨heq.symm, h⟩
  · exact .inr (.inl hgt)

instance : IsTrans ChatMessage fun a b => messageOrder a b = true := by
  constructor
  intro a b c hab hbc
  rw [messageOrder_iff] at hab hbc ⊢
  rcases hab with hab | ⟨hab, hid⟩
  · rcases hbc with hbc | ⟨hbc, -⟩
    · exact .inl (hab.trans hbc)
    · exact .inl (hbc ▸ hab)
  · rcases hbc with hbc | ⟨hbc, hid'⟩
    · exact .inl (hab ▸ hbc)
    · exact .inr ⟨hab.trans hbc, hid.trans hid'⟩

/-- The test of `messages_before`. -/
theorem not_messageOrder (a b : ChatMessage) :
    (!messageOrder a b) = (decide (b.sentAtMs < a.sentAtMs) ||
      (decide (b.sentAtMs = a.sentAtMs) && decide (b.id < a.id))) := by
  rw [Bool.eq_iff_iff, Bool.not_eq_true', ← Bool.not_eq_true, messageOrder_iff]
  simp only [Bool.or_eq_true, Bool.and_eq_true, decide_eq_true_eq, not_or, not_and, not_lt, not_le]
  constructor
  · rintro ⟨hle, hid⟩
    rcases hle.lt_or_eq with hlt | heq
    · exact .inl hlt
    · exact .inr ⟨heq, hid heq.symm⟩
  · rintro (hlt | ⟨heq, hid⟩)
    · exact ⟨hlt.le, fun heq => absurd heq hlt.ne'⟩
    · exact ⟨heq.le, fun _ => hid⟩

/-! ## The rows of a conversation -/

def rowsOf (s : Store P) (c : String) : List ChatMessage :=
  s.messages.rows.filter fun message => message.conversationId = c

theorem rowsOf_nodup (s : Store P) (c : String) : (s.rowsOf c).Nodup := (s.messages.nodup.of_map _).filter _

theorem rowsOf_distinguishes (s : Store P) (c : String) : Keyset.Distinguishes messageOrder (s.rowsOf c) := by
  intro a ha b hb hab hba
  rw [messageOrder_iff] at hab hba
  have hid : a.id = b.id := by
    rcases hab with hab | ⟨hsame, hle⟩
    · rcases hba with hba | ⟨hba, -⟩
      · exact absurd hab hba.asymm
      · exact absurd hba hab.ne'
    · rcases hba with hba | ⟨-, hge⟩
      · exact absurd hsame hba.ne'
      · exact le_antisymm hle hge
  exact Table.eq_of_mem (List.mem_of_mem_filter ha) (List.mem_of_mem_filter hb) hid

theorem messagesOf_eq (s : Store P) (c : String) :
    s.messagesOf c = Keyset.lastPage messageOrder messagePageSize (s.rowsOf c) := rfl

theorem messagesBefore_eq (s : Store P) (c : String) (a : ChatMessage) :
    s.messagesBefore c a.sentAtMs a.id =
      Keyset.lastPage messageOrder messagePageSize (Keyset.before messageOrder a (s.rowsOf c)) := by
  have hrows : Keyset.before messageOrder a (s.rowsOf c) = s.messages.rows.filter fun m =>
      decide (m.conversationId = c) &&
        (decide (m.sentAtMs < a.sentAtMs) || (decide (m.sentAtMs = a.sentAtMs) && decide (m.id < a.id))) := by
    unfold Keyset.before rowsOf
    rw [List.filter_filter]
    apply List.filter_congr
    intro m _
    rw [not_messageOrder, Bool.and_comm]
  rw [hrows]
  rfl

/-- The pages are those that the statements select, which sort twice. -/
theorem messagesOf_eq_query (s : Store P) (c : String) :
    s.messagesOf c = Keyset.query messageOrder messagePageSize (s.rowsOf c) :=
  (Keyset.query_eq_lastPage (s.rowsOf_distinguishes c)).symm

theorem messagesBefore_eq_query (s : Store P) (c : String) (a : ChatMessage) :
    s.messagesBefore c a.sentAtMs a.id =
      Keyset.query messageOrder messagePageSize (Keyset.before messageOrder a (s.rowsOf c)) := by
  rw [messagesBefore_eq]
  apply (Keyset.query_eq_lastPage _).symm
  intro m hm m' hm'
  exact s.rowsOf_distinguishes c m (List.mem_of_mem_filter hm) m' (List.mem_of_mem_filter hm')

/-! ## The pages -/

/-- The page before the oldest message loaded. -/
def olderPage (s : Store P) (c : String) (loaded : List ChatMessage) : List ChatMessage :=
  match loaded.head? with
  | none => []
  | some oldest => s.messagesBefore c oldest.sentAtMs oldest.id

/-- What is loaded after `k` older pages. -/
def history (s : Store P) (c : String) : Nat → List ChatMessage
  | 0 => s.messagesOf c
  | k + 1 => s.olderPage c (s.history c k) ++ s.history c k

/-- The last page that was loaded then. -/
def historyPage (s : Store P) (c : String) : Nat → List ChatMessage
  | 0 => s.messagesOf c
  | k + 1 => s.olderPage c (s.history c k)

theorem olderPage_eq (s : Store P) (c : String) (loaded : List ChatMessage) :
    s.olderPage c loaded = Keyset.older messageOrder messagePageSize (s.rowsOf c) loaded := by
  unfold olderPage Keyset.older
  cases loaded.head? with
  | none => rfl
  | some oldest => exact s.messagesBefore_eq c oldest

theorem history_eq (s : Store P) (c : String) (k : Nat) :
    s.history c k = Keyset.loaded messageOrder messagePageSize (s.rowsOf c) k := by
  induction k with
  | zero => rfl
  | succ k ih => rw [history, Keyset.loaded, olderPage_eq, ih]

theorem historyPage_eq (s : Store P) (c : String) (k : Nat) :
    s.historyPage c k = Keyset.page messageOrder messagePageSize (s.rowsOf c) k := by
  cases k with
  | zero => rfl
  | succ k => rw [historyPage, Keyset.page, olderPage_eq, history_eq]

/-- The pages of a conversation are its messages, in order and each once. -/
structure Partitions (s : Store P) (c : String) : Prop where
  rises : ∀ k, (s.history c k).Pairwise ChatMessage.Precedes
  /-- Sooner or later all messages are loaded. -/
  complete : ∃ k, ∀ j, k ≤ j → (s.history c j).Perm (s.rowsOf c)
  /-- After a page that is not full, none remains. -/
  short : ∀ k, (s.historyPage c k).length < messagePageSize → (s.history c k).Perm (s.rowsOf c)
  bounded : ∀ k, (s.historyPage c k).length ≤ messagePageSize

theorem precedes_of_messageOrder {a b : ChatMessage} (h : messageOrder a b = true) (hne : a.id ≠ b.id) :
    a.Precedes b := by
  rcases messageOrder_iff.1 h with hlt | ⟨heq, hle⟩
  · exact .inl hlt
  · exact .inr ⟨heq, lt_of_le_of_ne hle hne⟩

theorem partitions (s : Store P) (c : String) : s.Partitions c := by
  have hdistinct := s.rowsOf_distinguishes c
  have hnodup := s.rowsOf_nodup c
  have hpos : 0 < messagePageSize := by decide
  have hids : ((s.rowsOf c).map ChatMessage.id).Nodup := s.messages.nodup.sublist (List.filter_sublist.map _)
  constructor
  · intro k
    rw [history_eq, Keyset.loaded_eq hdistinct hnodup hpos]
    apply List.Pairwise.drop
    have hsorted : (Keyset.sorted messageOrder (s.rowsOf c)).Pairwise fun a b => messageOrder a b = true :=
      Keyset.sorted_pairwise _
    have hperm : ((Keyset.sorted messageOrder (s.rowsOf c)).map ChatMessage.id).Nodup :=
      ((Keyset.sorted_perm (s.rowsOf c)).map _).nodup_iff.2 hids
    exact hsorted.imp₂ (fun _ _ h hne => precedes_of_messageOrder h hne) (List.pairwise_map.1 hperm)
  · refine ⟨(s.rowsOf c).length, fun j hj => ?_⟩
    have hlength : (Keyset.sorted messageOrder (s.rowsOf c)).length = (s.rowsOf c).length :=
      List.length_insertionSort _ _
    have hmul : (s.rowsOf c).length ≤ (j + 1) * messagePageSize :=
      hj.trans (j.le_succ.trans (Nat.le_mul_of_pos_right _ hpos))
    rw [history_eq, Keyset.loaded_eq hdistinct hnodup hpos, hlength, Nat.sub_eq_zero_of_le hmul, List.drop_zero]
    exact Keyset.sorted_perm _
  · intro k hshort
    rw [historyPage_eq] at hshort
    rw [history_eq, Keyset.page_full_or_all hdistinct hnodup hpos hshort]
    exact Keyset.sorted_perm _
  · intro k
    rw [historyPage_eq, Keyset.length_page hdistinct hnodup hpos]
    exact Nat.min_le_left _ _

end Store

/-! ## Loading older messages -/

/-- The conversation with the selected contact is shown, with `k` older pages. -/
structure World.HasRead (w : World P) (contact : Contact) (k : Nat) : Prop where
  selected : w.app.selectedContact = some contact
  messages : w.app.messages = w.store.history (w.conversationWith contact.bundle.accountId) k
  exhausted : w.app.historyExhausted =
    decide ((w.store.historyPage (w.conversationWith contact.bundle.accountId) k).length < messagePageSize)

theorem Store.length_historyPage_le (s : Store P) (c : String) (k : Nat) :
    (s.historyPage c k).length ≤ (s.history c k).length := by
  cases k with
  | zero => exact Nat.le_refl _
  | succ k =>
    rw [Store.historyPage, Store.history, List.length_append]
    exact Nat.le_add_right _ _

/-- Where nothing is shown, nothing is left. -/
theorem World.HasRead.exhausted_of_nil {w : World P} {contact : Contact} {k : Nat} (h : w.HasRead contact k)
    (hnil : w.app.messages = []) : w.app.historyExhausted = true := by
  have hle := w.store.length_historyPage_le (w.conversationWith contact.bundle.accountId) k
  rw [← h.messages, hnil, List.length_nil] at hle
  rw [h.exhausted, decide_eq_true_eq]
  exact Nat.lt_of_le_of_lt hle (by decide)

/-- What is shown when the user has scrolled to the top: a page more, or what was, if all is loaded. -/
theorem loadOlderMessages_reads {w : World P} {contact : Contact} {k : Nat} (h : w.HasRead contact k) :
    wp (loadOlderMessages env)
      (fun _ w' => w'.store = w.store ∧
        (w'.HasRead contact (k + 1) ∨ w.app.historyExhausted = true ∧ w'.HasRead contact k))
      (fun _ w' => w'.store = w.store ∧ w'.HasRead contact k) w := by
  have hselected := h.selected
  unfold loadOlderMessages getApp
  simp only [Prog.wp_bind, Prog.wp_gets, hselected]
  cases hhead : w.app.messages.head? with
  | none =>
    have hnil : w.app.messages = [] := List.head?_eq_none_iff.1 hhead
    exact ⟨rfl, .inr ⟨h.exhausted_of_nil hnil, h⟩⟩
  | some oldest =>
    dsimp only
    rw [Prog.wp_ite]
    refine ⟨fun hexhausted => ⟨rfl, .inr ⟨hexhausted, h⟩⟩, fun _ => ?_⟩
    simp only [Prog.wp_bind, Prog.wp_gets]
    apply wp_query
    · refine ⟨rfl, .inl ⟨hselected, ?_, ?_⟩⟩
      all_goals
        have holder : w.store.olderPage (w.conversationWith contact.bundle.accountId) w.app.messages =
            w.store.messagesBefore (w.conversationWith contact.bundle.accountId) oldest.sentAtMs oldest.id := by
          rw [Store.olderPage, hhead]
        rw [h.messages] at holder
      · show w.store.messagesBefore _ _ _ ++ w.app.messages = Store.olderPage _ _ _ ++ Store.history _ _ _
        rw [h.messages]
        exact congrArg (· ++ _) holder.symm
      · show decide ((w.store.messagesBefore _ _ _).length < _) = decide ((Store.olderPage _ _ _).length < _)
        exact congrArg (fun page => decide (page.length < messagePageSize)) holder.symm
    · exact fun _ => ⟨rfl, h.selected, h.messages, h.exhausted⟩

/-- Pages partition a conversation, whatever its messages are; while it is paged through, what is shown is
some number of its pages, and all of it once the history counts as exhausted. -/
theorem history_partitions (env : Environment) :
    (∀ (s : Store P) (c : String), s.Partitions c) ∧
      ∀ (w : World P) (contact : Contact) (k : Nat), w.HasRead contact k →
        (w.app.historyExhausted = true →
          w.app.messages.Perm (w.store.rowsOf (w.conversationWith contact.bundle.accountId))) ∧
        wp (loadOlderMessages env)
          (fun _ w' => w'.store = w.store ∧
            (w'.HasRead contact (k + 1) ∨ w.app.historyExhausted = true ∧ w'.HasRead contact k))
          (fun _ w' => w'.store = w.store ∧ w'.HasRead contact k) w := by
  refine ⟨Store.partitions, fun w contact k h => ⟨fun hexhausted => ?_, loadOlderMessages_reads h⟩⟩
  rw [h.exhausted, decide_eq_true_eq] at hexhausted
  rw [h.messages]
  exact (w.store.partitions _).short k hexhausted

namespace Scenario

def talk : String := conversationId primitives.sha256 "alice" "bob"

/-- Two messages of one time. -/
def talked : List ChatMessage := ["m2", "m1"].map fun id =>
  { id
    conversationId := talk
    peerAccountId := "bob"
    senderAccountId := "alice"
    body := ""
    sentAtMs := 0
    status := .sent
    inbound := false
    provenance := none }

def bobContact : Contact :=
  { bundle := bundle "bob" 3 [("b1", 4)]
    verified := true
    identityChanged := false
    unreadCount := 0
    lastActivityMs := 0 }

/-- Alice looks at her conversation with Bob. -/
def reading : World primitives :=
  let w : World primitives := .ofProfile (firstDevice "alice" "a1" 1 2)
  let store := { w.store with messages := talked.foldl Table.insertOrIgnore ∅ }
  { w with
    app := { w.app with
      contacts := [bobContact]
      selected := some 0
      messages := store.history talk 0
      historyExhausted := decide ((store.historyPage talk 0).length < messagePageSize) }
    store }

theorem reading_partitions :
    reading.app.messages.map ChatMessage.id = ["m1", "m2"] ∧ reading.store.Partitions talk ∧
      reading.app.messages.Perm (reading.store.rowsOf (reading.conversationWith bobContact.bundle.accountId)) := by
  have hshows : reading.HasRead bobContact 0 := ⟨rfl, rfl, rfl⟩
  have hexhausted : reading.app.historyExhausted = true := by decide +kernel
  exact ⟨by decide +kernel, (history_partitions (environment (fun _ => []) [])).1 _ _,
    ((history_partitions (environment (fun _ => []) [])).2 _ _ _ hshows).1 hexhausted⟩

end Scenario

end TuiChat
