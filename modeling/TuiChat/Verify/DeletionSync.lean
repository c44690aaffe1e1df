import TuiChat.Client.Stages
import TuiChat.Verify.Outbox
import TuiChat.Verify.Scenario

/-!
# When a deletion counts as told

A pending tombstone is told to the other devices in an event under its event id, and the acceptance of that id makes
it settled. A second deletion of a conversation that is still pending keeps the id and moves the time, so that the
acceptance of the first event settles a deletion that it does not carry. Where no deletion moves the time of one whose
event is on its way, what is accepted carries it (`deletions_told`).
-/

namespace TuiChat

open Lib
open Lib.Prog (wp)

variable {P : Primitives} {env : Environment} {owner : Owner}

/-! ## Tables that settle deletions -/

/-- Tombstones stay what they are, but for those that are no longer pending or no longer there. -/
structure Persisted.Settles (s s' : Persisted) : Prop where
  tombstones : ∀ t' ∈ s'.tombstones, ∃ t ∈ s.tombstones, t.peerAccountId = t'.peerAccountId ∧
    t.syncEventId = t'.syncEventId ∧ t.deletedAtMs = t'.deletedAtMs ∧ (t'.pendingSync = true → t.pendingSync = true)
  offered : ∀ id ∈ s.offered, id ∈ s'.offered

namespace Persisted.Settles

variable {s s' s'' : Persisted}

theorem of_eq (htombstones : s'.tombstones = s.tombstones) (hoffered : s'.offered = s.offered) : s.Settles s' where
  tombstones t ht := ⟨t, htombstones ▸ ht, rfl, rfl, rfl, id⟩
  offered _ hid := hoffered ▸ hid

theorem offer (s : Persisted) (row : OutboxRow) : s.Settles (s.offer row) where
  tombstones t ht := ⟨t, ht, rfl, rfl, rfl, id⟩
  offered _ hid := List.mem_append_right _ hid

theorem markSynced (s : Persisted) (id : String) : s.Settles (s.markSynced id) where
  tombstones t ht := by
    obtain ⟨old, hold, rfl⟩ := mem_markSynced ht
    refine ⟨old, hold, ?_⟩
    split
    · exact ⟨rfl, rfl, rfl, fun h => by cases h⟩
    · exact ⟨rfl, rfl, rfl, fun h => h⟩
  offered _ hid := hid

theorem verify (s : Persisted) (accountId : String) : s.Settles (s.verify accountId) where
  tombstones t ht := ⟨t, (Table.mem_delete.1 ht).1, rfl, rfl, rfl, id⟩
  offered _ hid := hid

end Persisted.Settles

namespace Persisted

variable {s s' : Persisted}

/-- A completion marks its event or leaves tombstones and offers alone. -/
theorem complete_tombstones (id : String) (n : Nat) : (s.complete id n).offered = s.offered ∧
    ((s.complete id n).tombstones = s.tombstones ∨ (s.complete id n).tombstones = (s.markSynced id).tombstones) := by
  have hremoved : (if 1 ≤ n then s.removeOutbox id else s).offered = s.offered ∧
      (if 1 ≤ n then s.removeOutbox id else s).tombstones = s.tombstones := by
    split
    · exact ⟨rfl, rfl⟩
    · exact ⟨rfl, rfl⟩
  unfold complete
  dsimp only
  generalize (if 1 ≤ n then s.removeOutbox id else s) = removed at hremoved ⊢
  have hmarked : (if 2 ≤ n then removed.markSynced id else removed).offered = s.offered ∧
      ((if 2 ≤ n then removed.markSynced id else removed).tombstones = s.tombstones ∨
        (if 2 ≤ n then removed.markSynced id else removed).tombstones = (s.markSynced id).tombstones) := by
    split
    · refine ⟨hremoved.1, .inr ?_⟩
      unfold markSynced
      rw [hremoved.2]
    · exact ⟨hremoved.1, .inl hremoved.2⟩
  generalize (if 2 ≤ n then removed.markSynced id else removed) = marked at hmarked ⊢
  split
  · obtain ⟨-, htombstones, hoffered⟩ := marked.raise_aside id .sent fun _ => true
    rw [htombstones, hoffered]
    exact hmarked
  · exact hmarked

theorem Settles.complete (s : Persisted) (id : String) (n : Nat) : s.Settles (s.complete id n) := by
  obtain ⟨hoffered, htombstones | htombstones⟩ := s.complete_tombstones id n
  · exact .of_eq htombstones hoffered
  · have hmarked := Settles.markSynced s id
    exact ⟨fun t ht => hmarked.tombstones t (htombstones ▸ ht), fun id' hid => hoffered ▸ hid⟩

theorem mem_markSynced_of_ne {id : String} {t : ConversationTombstone} (ht : t ∈ s.tombstones)
    (hid : t.syncEventId ≠ id) : t ∈ (s.markSynced id).tombstones := by
  have hmem := Table.mem_update_of_mem (p := fun t => t.syncEventId = id)
    (f := fun t => { t with pendingSync := false }) Store.synced_peerAccountId ht
  rwa [if_neg fun h => hid (of_decide_eq_true h)] at hmem

theorem mem_complete_of_ne {id : String} {n : Nat} {t : ConversationTombstone} (ht : t ∈ s.tombstones)
    (hid : t.syncEventId ≠ id) : t ∈ (s.complete id n).tombstones := by
  obtain ⟨-, htombstones | htombstones⟩ := s.complete_tombstones id n
  · exact htombstones ▸ ht
  · exact htombstones ▸ mem_markSynced_of_ne ht hid

theorem delete_tombstones {t : ConversationTombstone} (h : s.delete t = some s') :
    (∀ u ∈ s.tombstones, u.peerAccountId ≠ (s.merged t).peerAccountId →
      u.syncEventId ≠ (s.merged t).syncEventId) ∧
      s'.tombstones = s.tombstones.put (s.merged t) ∧ s'.offered = s.offered := by
  unfold delete at h
  split at h
  · cases h
  · next halone =>
    cases h
    exact ⟨fun u hu hne hid => halone (List.any_eq_true.2 ⟨u, hu, by simp [hne, hid]⟩), rfl, rfl⟩

/-- A merged tombstone is pending under the id of the deletion, or under that of the pending one before. -/
theorem merged_pending {t : ConversationTombstone} (h : (s.merged t).pendingSync = true) :
    (t.pendingSync = true ∧ (s.merged t).syncEventId = t.syncEventId) ∨
      ∃ old ∈ s.tombstones, old.peerAccountId = t.peerAccountId ∧ old.pendingSync = true ∧
        (s.merged t).syncEventId = old.syncEventId ∧
        (s.merged t).deletedAtMs = max t.deletedAtMs old.deletedAtMs := by
  unfold merged at h ⊢
  cases hold : s.tombstones.find t.peerAccountId with
  | none =>
    rw [hold] at h
    exact .inl ⟨h, rfl⟩
  | some old =>
    rw [hold, Option.map_some, Option.getD_some] at h
    rw [Option.map_some, Option.getD_some]
    unfold Store.mergeTombstone at h ⊢
    dsimp only at h ⊢
    by_cases hp : old.pendingSync = true
    · exact .inr ⟨old, Table.mem_of_find hold, Table.key_of_find hold, hp, if_pos hp, rfl⟩
    · have ht : t.pendingSync = true := by simpa [hp] using h
      exact .inl ⟨ht, by rw [if_neg hp, if_pos ht]⟩

/-- A deletion leaves pending what is pending. -/
theorem pending_merged {t old : ConversationTombstone} (hold : old ∈ s.tombstones)
    (hpeer : old.peerAccountId = t.peerAccountId) (h : old.pendingSync = true) :
    (s.merged t).pendingSync = true := by
  unfold merged
  rw [← hpeer, Table.find_of_mem hold, Option.map_some, Option.getD_some]
  unfold Store.mergeTombstone
  dsimp only
  rw [h, Bool.or_true]

end Persisted

/-- The id under which a statement offers envelopes. -/
def Statement.offers : Statement → Option String
  | .written _ row | .queued row => some row.logicalMessageId
  | _ => none

/-- Statements that leave the tombstones alone. -/
def Statement.Spares : Statement → Prop
  | .completed .. | .synced _ | .deleted _ | .verified _ => False
  | _ => True

theorem offered_offer {s : Persisted} {row : OutboxRow} (hrow : row.Uniform) {id : String}
    (hid : id ∈ (s.offer row).offered) : id ∈ s.offered ∨ row.logicalMessageId = id := by
  rcases List.mem_append.1 hid with hnew | hold
  · obtain ⟨e, he, rfl⟩ := List.mem_map.1 hnew
    exact .inr (hrow e he).symm
  · exact .inl hold

theorem Statement.Spares.run {s s' : Persisted} {st : Statement} (hst : st.Spares) (hs : st.run s = some s') :
    s'.tombstones = s.tombstones ∧ (∀ id ∈ s.offered, id ∈ s'.offered) ∧
      ∀ id ∈ s'.offered, id ∈ s.offered ∨ st.offers = some id := by
  cases st with
  | written m row =>
    obtain ⟨⟨-, hrow⟩, rfl⟩ := Option.ite_none_right_eq_some.1 hs |>.imp_right Option.some.inj
    exact ⟨rfl, fun _ hid => List.mem_append_right _ hid,
      fun id hid => (offered_offer hrow hid).imp_right (congrArg some)⟩
  | queued row =>
    obtain ⟨hrow, rfl⟩ := Option.ite_none_right_eq_some.1 hs |>.imp_right Option.some.inj
    exact ⟨rfl, fun _ hid => List.mem_append_right _ hid,
      fun id hid => (offered_offer hrow hid).imp_right (congrArg some)⟩
  | received m =>
    obtain ⟨-, rfl⟩ := Option.ite_none_right_eq_some.1 hs |>.imp_right Option.some.inj
    exact ⟨rfl, fun _ hid => hid, fun _ hid => .inl hid⟩
  | imported m =>
    cases hs
    exact ⟨rfl, fun _ hid => hid, fun _ hid => .inl hid⟩
  | raised id status p =>
    cases hs
    obtain ⟨-, htombstones, hoffered⟩ := s.raise_aside id status p
    exact ⟨htombstones, fun _ hid => hoffered ▸ hid, fun _ hid => .inl (hoffered ▸ hid)⟩
  | completed | synced | deleted | verified => exact hst.elim

/-! ## What the events of the pending deletions carry -/

namespace Ledger

/-- No deletion of the conversation with a later time is stored over one whose event may be on its way. -/
def Undisturbed (s : Ledger P) (t : ConversationTombstone) : Prop :=
  ∀ old ∈ s.tables.tombstones, old.peerAccountId = t.peerAccountId → old.pendingSync = true →
    old.syncEventId ∈ s.tables.offered → t.deletedAtMs ≤ old.deletedAtMs

/-- The id is the event id of no pending deletion. -/
def Apart (s : Ledger P) (id : String) : Prop :=
  ∀ t ∈ s.tables.tombstones, t.pendingSync = true → t.syncEventId ≠ id

/-- The events of the pending deletions that were ever offered carry them. -/
structure Telling (env : Environment) (owner : Owner) (s : Ledger P) : Prop where
  distinct : ∀ t ∈ s.tables.tombstones, ∀ t' ∈ s.tables.tombstones, t.syncEventId = t'.syncEventId → t = t'
  sound : ∀ t row, .announced t row ∈ s.past → Announces P env owner t row ∧ t.syncEventId ∈ s.tables.offered
  carried : ∀ t ∈ s.tables.tombstones, t.pendingSync = true → ∀ t₀ row, .announced t₀ row ∈ s.past →
    t₀.syncEventId = t.syncEventId → t₀.deletedAtMs = t.deletedAtMs
  told : ∀ t ∈ s.tables.tombstones, t.pendingSync = true → t.syncEventId ∈ s.tables.offered →
    ∃ t₀ row, .announced t₀ row ∈ s.past ∧ t₀.syncEventId = t.syncEventId

end Ledger

/-- Ids are new, the server accepts what it was offered, and no deletion whose event may be on its way is moved. -/
def Change.Careful (s : Ledger P) : Change P → Prop
  | .stated st => ∀ id ∈ st.offers, s.Apart id
  | .completed id _ => id ∈ s.tables.offered
  | .deletedHere t => t.syncEventId ∉ s.tables.offered ∧ s.Undisturbed t
  | .processed o .deleted => s.Undisturbed o.tombstone
  | _ => True

/-- Whether a change stores the event of a deletion. -/
def Change.announcing : Change P → Bool
  | .announced .. => true
  | _ => false

theorem mem_past {c : Change P} {past : List (Change P)} (h : c.announcing = false) (t : ConversationTombstone)
    (row : OutboxRow) : .announced t row ∈ c :: past ↔ .announced t row ∈ past := by
  refine ⟨fun hmem => (List.mem_cons.1 hmem).resolve_left fun heq => ?_, List.mem_cons_of_mem _⟩
  subst heq
  cases h

/-- An announcement carries the id of its deletion, in at least one envelope. -/
theorem Announces.ids {t : ConversationTombstone} {row : OutboxRow} (h : Announces P env owner t row) :
    row.envelopes ≠ [] ∧ ∀ e ∈ row.envelopes, e.logicalMessageId = t.syncEventId := by
  obtain ⟨bundle, -, htargets, -, machine, machine', w, w', hexec⟩ := h
  have hencrypted : wp (encryptTargets env (deletionEvent owner t) machine (targetsBut owner.deviceId bundle))
      (fun r w' => Changes (fun _ _ => False) w w' ∧ Addressed (deletionEvent owner t) (targetsBut owner.deviceId bundle) r.1)
      (fun _ => Changes (fun _ _ => False) w) w := wp_encryptTargets _ _ _ _
  obtain ⟨-, haddressed⟩ := (Prog.wp_iff.1 hencrypted).1 _ _ hexec
  refine ⟨fun hnone => htargets ?_, haddressed.ids⟩
  rw [hnone] at haddressed
  exact List.eq_nil_of_length_eq_zero haddressed.length_eq

namespace Ledger.Telling

variable {s s' : Ledger P}

theorem empty : (Ledger.empty owner : Ledger P).Telling env owner where
  distinct t ht := absurd ht (Table.not_mem_empty t)
  sound _ _ h := absurd h List.not_mem_nil
  carried t ht := absurd ht (Table.not_mem_empty t)
  told t ht := absurd ht (Table.not_mem_empty t)

/-- What announces no deletion, and at most settles some. -/
theorem settle (h : s.Telling env owner) (hsettles : s.tables.Settles s'.tables)
    (hoffered : ∀ id ∈ s'.tables.offered, id ∈ s.tables.offered ∨ s.Apart id)
    (hpast : ∀ t row, Change.announced t row ∈ s'.past ↔ .announced t row ∈ s.past) : s'.Telling env owner where
  distinct t ht t' ht' hid := by
    obtain ⟨u, hu, hpeer, hsame, -⟩ := hsettles.tombstones t ht
    obtain ⟨u', hu', hpeer', hsame', -⟩ := hsettles.tombstones t' ht'
    obtain rfl : u = u' := h.distinct u hu u' hu' (hsame.trans (hid.trans hsame'.symm))
    exact Table.eq_of_mem ht ht' (hpeer.symm.trans hpeer')
  sound t row hannounced := by
    obtain ⟨hannounces, hid⟩ := h.sound t row ((hpast t row).1 hannounced)
    exact ⟨hannounces, hsettles.offered _ hid⟩
  carried t ht hpending t₀ row hannounced hid := by
    obtain ⟨u, hu, -, hsame, htime, hpending'⟩ := hsettles.tombstones t ht
    rw [← htime]
    exact h.carried u hu (hpending' hpending) t₀ row ((hpast t₀ row).1 hannounced) (hid.trans hsame.symm)
  told t ht hpending hid := by
    obtain ⟨u, hu, -, hsame, -, hpending'⟩ := hsettles.tombstones t ht
    rcases hoffered _ hid with hold | hapart
    · obtain ⟨t₀, row, hannounced, hid'⟩ := h.told u hu (hpending' hpending) (hsame ▸ hold)
      exact ⟨t₀, row, (hpast t₀ row).2 hannounced, hid'.trans hsame⟩
    · exact absurd hsame (hapart u hu (hpending' hpending))

/-- The event of a stored deletion is offered. -/
theorem announce {t : ConversationTombstone} {row : OutboxRow} (h : s.Telling env owner) (hlists : s.tables.Lists t)
    (hannounces : Announces P env owner t row) (htables : s'.tables = s.tables.offer row)
    (hpast : s'.past = .announced t row :: s.past) : s'.Telling env owner := by
  obtain ⟨hsome, hids⟩ := hannounces.ids
  have hid : t.syncEventId ∈ s'.tables.offered := by
    obtain ⟨e, he⟩ := List.exists_mem_of_ne_nil _ hsome
    rw [htables]
    exact List.mem_append_left _ (List.mem_map.2 ⟨e, he, hids e he⟩)
  have hlisted : ∀ t' ∈ s.tables.tombstones, t.syncEventId = t'.syncEventId → t.deletedAtMs = t'.deletedAtMs := by
    intro t' ht' hsame
    obtain ⟨pendingSync, ht⟩ := hlists
    rw [← h.distinct _ ht t' ht' hsame]
  have htombstones : s'.tables.tombstones = s.tables.tombstones := by
    rw [htables]
    rfl
  refine ⟨?_, fun t₀ row₀ hmem => ?_, fun t' ht' hpending t₀ row₀ hmem hsame => ?_, fun t' ht' hpending hoffered => ?_⟩
  · rw [htombstones]
    exact h.distinct
  · rw [hpast] at hmem
    rcases List.mem_cons.1 hmem with heq | hold
    · cases heq
      exact ⟨hannounces, hid⟩
    · obtain ⟨hann, hold'⟩ := h.sound t₀ row₀ hold
      rw [htables]
      exact ⟨hann, List.mem_append_right _ hold'⟩
  · rw [htombstones] at ht'
    rw [hpast] at hmem
    rcases List.mem_cons.1 hmem with heq | hold
    · cases heq
      exact hlisted t' ht' hsame
    · exact h.carried t' ht' hpending t₀ row₀ hold hsame
  · rw [htombstones] at ht'
    rw [hpast]
    by_cases hsame : t.syncEventId = t'.syncEventId
    · exact ⟨t, row, List.mem_cons_self, hsame⟩
    · have hold : t'.syncEventId ∈ s.tables.offered := by
        rw [htables] at hoffered
        rcases List.mem_append.1 hoffered with hnew | hold
        · obtain ⟨e, he, heq⟩ := List.mem_map.1 hnew
          exact absurd ((hids e he).symm.trans heq) hsame
        · exact hold
      obtain ⟨t₀, row₀, hmem, hid₀⟩ := h.told t' ht' hpending hold
      exact ⟨t₀, row₀, List.mem_cons_of_mem _ hmem, hid₀⟩

/-- A deletion is stored, which keeps the event of a pending one and may move its time. -/
theorem delete {t : ConversationTombstone} (h : s.Telling env owner) (hs : s.tables.delete t = some s'.tables)
    (hfresh : t.pendingSync = true → t.syncEventId ∉ s.tables.offered) (hundisturbed : s.Undisturbed t)
    (hpast : ∀ t row, Change.announced t row ∈ s'.past ↔ .announced t row ∈ s.past) : s'.Telling env owner := by
  obtain ⟨halone, htombstones, hoffered⟩ := Persisted.delete_tombstones hs
  have hmem : ∀ u ∈ s'.tables.tombstones, u = s.tables.merged t ∨
      u ∈ s.tables.tombstones ∧ u.peerAccountId ≠ (s.tables.merged t).peerAccountId := by
    intro u hu
    rw [htombstones] at hu
    exact Table.mem_put.1 hu
  refine ⟨fun u hu u' hu' hid => ?_, fun t₀ row hann => ?_, fun u hu hpending t₀ row hann hid => ?_,
    fun u hu hpending hid => ?_⟩
  · rcases hmem u hu with rfl | ⟨hold, hne⟩
    · rcases hmem u' hu' with rfl | ⟨hold', hne'⟩
      · rfl
      · exact absurd hid.symm (halone u' hold' hne')
    · rcases hmem u' hu' with rfl | ⟨hold', hne'⟩
      · exact absurd hid (halone u hold hne)
      · exact h.distinct u hold u' hold' hid
  · rw [hoffered]
    exact h.sound t₀ row ((hpast t₀ row).1 hann)
  · have hann := (hpast t₀ row).1 hann
    rcases hmem u hu with rfl | ⟨hold, -⟩
    · rcases Persisted.merged_pending hpending with ⟨ht, hsame⟩ | ⟨old, hold, hpeer, hp, hsame, htime⟩
      · exact absurd (hid.trans hsame ▸ (h.sound t₀ row hann).2) (hfresh ht)
      · have hoff : old.syncEventId ∈ s.tables.offered := hid.trans hsame ▸ (h.sound t₀ row hann).2
        rw [htime, max_eq_right (hundisturbed old hold hpeer hp hoff)]
        exact h.carried old hold hp t₀ row hann (hid.trans hsame)
    · exact h.carried u hold hpending t₀ row hann hid
  · rw [hoffered] at hid
    obtain ⟨t₀, row, hann, hsame⟩ : ∃ t₀ row, .announced t₀ row ∈ s.past ∧ t₀.syncEventId = u.syncEventId := by
      rcases hmem u hu with rfl | ⟨hold, -⟩
      · rcases Persisted.merged_pending hpending with ⟨ht, hsame⟩ | ⟨old, hold, -, hp, hsame, -⟩
        · exact absurd (hsame ▸ hid) (hfresh ht)
        · rw [hsame] at hid ⊢
          exact h.told old hold hp hid
      · exact h.told u hold hpending hid
    exact ⟨t₀, row, (hpast t₀ row).2 hann, hsame⟩

/-- What leaves the tombstones alone, and announces none. -/
theorem spare (h : s.Telling env owner) {st : Statement} (hst : st.Spares) (hoffers : ∀ id ∈ st.offers, s.Apart id)
    (hs : st.run s.tables = some s'.tables)
    (hpast : ∀ t row, Change.announced t row ∈ s'.past ↔ .announced t row ∈ s.past) : s'.Telling env owner := by
  obtain ⟨htombstones, hkept, hnew⟩ := hst.run hs
  have hsettles : s.tables.Settles s'.tables := ⟨fun t ht => ⟨t, htombstones ▸ ht, rfl, rfl, rfl, id⟩, hkept⟩
  exact h.settle hsettles (fun id hid => (hnew id hid).imp_right (hoffers id)) hpast

/-- What leaves the tables alone. -/
theorem same (h : s.Telling env owner) (htables : s'.tables = s.tables)
    (hpast : ∀ t row, Change.announced t row ∈ s'.past ↔ .announced t row ∈ s.past) : s'.Telling env owner := by
  refine h.settle ?_ (fun id hid => .inl (htables ▸ hid)) hpast
  rw [htables]
  exact .of_eq rfl rfl

theorem run {a : Action} {c : Change P} (h : s.Telling env owner) (howner : s.owner = owner) (hc : c.Of env a s)
    (hcareful : c.Careful s) (hs : c.run s = some s') : s'.Telling env owner := by
  obtain ⟨s₁, hs₁, rfl⟩ := Change.run_eq hs
  cases c with
  | saved | restarted | noted n | answered n | answeredBy o n | marked id state read now | dismissed n now
  | seen id now | unnoted id =>
    cases hs₁
    exact h.same rfl (mem_past rfl)
  | stated st =>
    obtain ⟨tables, htables, rfl⟩ := Ledger.statement_eq hs₁
    have hst : st.Spares := by
      cases st with
      | written | queued | imported | raised => trivial
      | received | completed | synced | deleted | verified => exact hc.elim False.elim False.elim
    exact h.spare hst hcareful htables (mem_past rfl)
  | announced t row =>
    obtain ⟨tables, htables, rfl⟩ := Ledger.statement_eq hs₁
    obtain ⟨-, rfl⟩ := Option.ite_none_right_eq_some.1 htables |>.imp_right Option.some.inj
    obtain ⟨hlists, hannounces⟩ := hc.resolve_right False.elim
    exact h.announce hlists (howner ▸ hannounces) rfl rfl
  | unaddressed id =>
    obtain ⟨tables, htables, rfl⟩ := Ledger.statement_eq hs₁
    cases htables
    exact h.settle (.markSynced s.tables id) (fun _ hid => .inl hid) (mem_past rfl)
  | completed id n =>
    obtain ⟨tables, htables, rfl⟩ := Ledger.statement_eq hs₁
    cases htables
    have hoffered := (s.tables.complete_tombstones id n).1
    exact h.settle (.complete s.tables id n) (fun _ hid => .inl (hoffered ▸ hid)) (mem_past rfl)
  | verified accountId =>
    obtain ⟨tables, htables, rfl⟩ := Ledger.statement_eq hs₁
    cases htables
    exact h.settle (.verify s.tables accountId) (fun _ hid => .inl hid) (mem_past rfl)
  | deletedHere t => exact h.delete (Ledger.delete_eq hs₁).1 (fun _ => hcareful.1) hcareful.2 (mem_past rfl)
  | processed o branch =>
    obtain ⟨s₂, hs₂, rfl⟩ := Option.map_eq_some_iff.1 hs₁
    cases branch with
    | control | suppressed =>
      cases hs₂
      exact h.same rfl (mem_past rfl)
    | received =>
      obtain ⟨tables, htables, rfl⟩ := Ledger.statement_eq hs₂
      have hst : (Statement.received (o.message o.peer !o.senderIsSelf)).Spares := trivial
      exact h.spare hst (fun _ hid => absurd hid (Option.not_mem_none _)) htables (mem_past rfl)
    | quarantined n =>
      have hs₂ : (s.statement (.received (o.message o.stored.senderAccountId true))).map (fun s' => s'.note n) =
        some s₂ := hs₂
      obtain ⟨s₃, hs₃, rfl⟩ := Option.map_eq_some_iff.1 hs₂
      obtain ⟨tables, htables, rfl⟩ := Ledger.statement_eq hs₃
      have hst : (Statement.received (o.message o.stored.senderAccountId true)).Spares := trivial
      exact h.spare hst (fun _ hid => absurd hid (Option.not_mem_none _)) htables (mem_past rfl)
    | deleted => exact h.delete (Ledger.delete_eq hs₂).1 (fun hp => absurd hp Bool.false_ne_true) hcareful (mem_past rfl)

end Ledger.Telling

/-! ## Runs -/

/-- A change accounts for a pending tombstone: it stays pending; or the server has accepted an event that carries its
time to every other active device that the server named; or the server names no other; or the account is verified. -/
def Change.AccountsFor (env : Environment) (owner : Owner) (a : Action) (c : Change P) (s s' : Ledger P)
    (t : ConversationTombstone) : Prop :=
  (∃ t' ∈ s'.tables.tombstones, t'.peerAccountId = t.peerAccountId ∧ t'.pendingSync = true) ∨
  (∃ f accepted, a = .serverEvent f ∧ f.body = some (.sendAccepted accepted) ∧
    accepted.logicalMessageId = t.syncEventId ∧
    ∃ t₀ row, .announced t₀ row ∈ s.past ∧ Announces P env owner t₀ row ∧ t₀.syncEventId = t.syncEventId ∧
      t₀.deletedAtMs = t.deletedAtMs) ∨
  (c = .unaddressed t.syncEventId ∧ ∃ bundle, OwnBundle env owner bundle ∧ targetsBut owner.deviceId bundle = []) ∨
  c = .verified t.peerAccountId ∧ (a = .verifySelected ∨ a = .activateNotificationPrimary)

theorem Change.Of.accountsFor {a : Action} {s s' : Ledger P} {c : Change P} {t : ConversationTombstone}
    (h : s.Telling env owner) (howner : s.owner = owner) (hc : c.Of env a s) (hcareful : c.Careful s)
    (hs : c.run s = some s') (ht : t ∈ s.tables.tombstones) (hpending : t.pendingSync = true) :
    c.AccountsFor env owner a s s' t := by
  obtain ⟨s₁, hs₁, rfl⟩ := Change.run_eq hs
  have stays : ∀ {s₂ : Ledger P}, t ∈ s₂.tables.tombstones → c.AccountsFor env owner a s s₂ t :=
    fun hmem => .inl ⟨t, hmem, rfl, hpending⟩
  have spares : ∀ {s₂ : Ledger P} {st : Statement}, st.Spares → st.run s.tables = some s₂.tables →
      c.AccountsFor env owner a s s₂ t := fun hst hs₂ => stays ((hst.run hs₂).1 ▸ ht)
  have deletes : ∀ {s₂ : Ledger P} {new : ConversationTombstone}, s.tables.delete new = some s₂.tables →
      c.AccountsFor env owner a s s₂ t := fun {s₂ new} hs₂ => by
    obtain ⟨-, htombstones, -⟩ := Persisted.delete_tombstones hs₂
    by_cases hpeer : t.peerAccountId = (s.tables.merged new).peerAccountId
    · refine .inl ⟨s.tables.merged new, htombstones ▸ Table.mem_put.2 (.inl rfl), hpeer.symm, ?_⟩
      exact Persisted.pending_merged ht (hpeer.trans (s.tables.merged_cases new).1) hpending
    · exact stays (htombstones ▸ Table.mem_put.2 (.inr ⟨ht, hpeer⟩))
  cases c with
  | saved | restarted | noted n | answered n | answeredBy o n | marked id state read now | dismissed n now
  | seen id now | unnoted id =>
    cases hs₁
    exact stays ht
  | stated st =>
    obtain ⟨tables, htables, rfl⟩ := Ledger.statement_eq hs₁
    refine spares ?_ htables
    cases st with
    | written | queued | imported | raised => trivial
    | received | completed | synced | deleted | verified => exact hc.elim False.elim False.elim
  | announced t₀ row =>
    obtain ⟨tables, htables, rfl⟩ := Ledger.statement_eq hs₁
    have hst : (Statement.queued row).Spares := trivial
    exact spares hst htables
  | unaddressed id =>
    cases hs₁
    by_cases hid : t.syncEventId = id
    · exact .inr (.inr (.inl ⟨congrArg _ hid.symm, howner ▸ hc.resolve_right False.elim⟩))
    · exact stays (Persisted.mem_markSynced_of_ne ht hid)
  | completed id n =>
    obtain ⟨⟨f, accepted, ha, hbody, rfl⟩, -⟩ := hc.resolve_left False.elim
    by_cases hid : t.syncEventId = accepted.logicalMessageId
    · have hoffered : accepted.logicalMessageId ∈ s.tables.offered := hcareful
      obtain ⟨t₀, row, hann, hsame⟩ := h.told t ht hpending (hid ▸ hoffered)
      exact .inr (.inl ⟨f, accepted, ha, hbody, hid.symm, t₀, row, hann, (h.sound t₀ row hann).1, hsame,
        h.carried t ht hpending t₀ row hann hsame⟩)
    · cases hs₁
      exact stays (Persisted.mem_complete_of_ne ht hid)
  | verified accountId =>
    cases hs₁
    by_cases hpeer : t.peerAccountId = accountId
    · exact .inr (.inr (.inr ⟨congrArg _ hpeer.symm, hc.resolve_left False.elim⟩))
    · exact stays (Table.mem_delete.2 ⟨ht, decide_eq_false hpeer⟩)
  | deletedHere new => exact deletes (Ledger.delete_eq hs₁).1
  | processed o branch =>
    obtain ⟨s₂, hs₂, rfl⟩ := Option.map_eq_some_iff.1 hs₁
    cases branch with
    | control | suppressed =>
      cases hs₂
      exact stays ht
    | received =>
      obtain ⟨tables, htables, rfl⟩ := Ledger.statement_eq hs₂
      have hst : (Statement.received (o.message o.peer !o.senderIsSelf)).Spares := trivial
      exact spares hst htables
    | quarantined n =>
      have hs₂ : (s.statement (.received (o.message o.stored.senderAccountId true))).map (fun s' => s'.note n) =
        some s₂ := hs₂
      obtain ⟨s₃, hs₃, rfl⟩ := Option.map_eq_some_iff.1 hs₂
      obtain ⟨tables, htables, rfl⟩ := Ledger.statement_eq hs₃
      have hst : (Statement.received (o.message o.stored.senderAccountId true)).Spares := trivial
      exact spares hst htables
    | deleted => exact deletes (Ledger.delete_eq hs₂).1

/-- The ledger of a client is reached by its changes, one after another; and in a run of careful changes every pending
tombstone is accounted for by each of them. -/
theorem deletions_told (P : Primitives) (env : Environment) (profile : RuntimeProfile P) :
    (∀ w : World P, (clientSystem env profile).Reachable w →
        ∃ past, (ledgerSystem env profile.owner).Reachable (w.ledger past)) ∧
    ∀ s : Ledger P, (ledgerSystem env profile.owner).ReachableUnder (fun s l => l.2.Careful s) s →
      ∀ a c s', Change.Of env a s c → c.Careful s → c.run s = some s' →
        ∀ t ∈ s.tables.tombstones, t.pendingSync = true → c.AccountsFor env profile.owner a s s' t := by
  refine ⟨fun w hw => ledger_reachable hw, fun s hs a c s' hc hcareful hrun t ht hpending => ?_⟩
  have hkept : s.Telling env profile.owner ∧ (ledgerSystem env profile.owner).Reachable s := by
    refine hs.invariant (I := fun s => s.Telling env profile.owner ∧ (ledgerSystem env profile.owner).Reachable s)
      (fun s hinit => ?_) fun s l s' ⟨htelling, hreachable⟩ hcareful hstep => ?_
    · rw [show s = .empty profile.owner from hinit]
      exact ⟨.empty, .init rfl⟩
    · exact ⟨htelling.run (ledger_owner hreachable).1 hstep.1 hcareful hstep.2, .step hreachable trivial hstep⟩
  exact hc.accountsFor hkept.1 (ledger_owner hkept.2).1 hcareful hrun ht hpending

namespace Scenario.Untold

def alice : RuntimeProfile primitives := firstDevice "alice" "a1" 1 2

def hello (id : String) : WirePayload := payload "text" id "bob" "alice" "hello" []

/-- Alice has another device, `a2`. -/
def ownBundle : UserBundle := bundle "alice" 1 [("a1", 2), ("a2", 3)]

def outside : Environment :=
  environment (fun _ => [ownBundle, bundle "bob" 5 [("b1", 6)]]) [hello "m1", hello "m2"]

def arrival (cursor : Nat) (id : String) : Action :=
  .serverEvent (batch [envelope cursor "b1" (conversationId primitives.sha256 "alice" "bob") 6 "a1" (hello id)])

/-- Bob writes, Alice deletes the conversation, he writes again, and she deletes it again. -/
def deletedTwice : World primitives :=
  (World.ofProfile alice).afterAll outside
    [arrival 1 "m1", .deleteConversation "bob" "bob", arrival 2 "m2", .deleteConversation "bob" "bob"]

/-- The server accepts the event of the first deletion. -/
def accepted : World primitives :=
  deletedTwice.after outside (.serverEvent (frame "" (.sendAccepted { logicalMessageId := "18", acceptedAtMs := 0 })))

/-- The times and recipients of the envelopes that were ever offered under an id. -/
def carried (w : World primitives) (id : String) : List (Int × String) :=
  w.log.flatMap fun
    | .queued message => (message.envelopes.filter fun e => e.logicalMessageId = id).map fun e =>
        (e.clientSentAtMs, e.recipientDeviceId)
    | _ => []

/-- The second deletion is settled by the acceptance of the first, and no event has carried it to the other device. -/
theorem later_deletion_untold :
    (clientSystem outside alice).Reachable deletedTwice ∧
      (deletedTwice.store.tombstones.rows.map fun t => (t.syncEventId, t.deletedAtMs, t.pendingSync)) =
        [("18", 59, true)] ∧
      (accepted.store.tombstones.rows.map fun t => (t.syncEventId, t.deletedAtMs, t.pendingSync)) =
        [("18", 59, false)] ∧
      carried accepted "18" = [(19, "a2")] ∧
      OwnBundle outside alice.owner ownBundle ∧
      (targetsBut "a1" ownBundle).map (fun target => target.device.deviceId) = ["a2"] := by
  have hreachable : (clientSystem outside alice).Reachable deletedTwice := reachable_ofProfile _ _ _
  exact ⟨hreachable, by decide +kernel, by decide +kernel, by decide +kernel, ⟨⟨0, rfl⟩, rfl, rfl⟩, by decide +kernel⟩

def deletion : ConversationTombstone :=
  { peerAccountId := "bob"
    peerUsername := "bob"
    conversationId := conversationId primitives.sha256 "alice" "bob"
    syncEventId := "d"
    deletedAtMs := 5
    pendingSync := true }

/-- The event of the deletion is encrypted for the other device. -/
def sealing : Except Error (List EncryptedEnvelope × OlmMachine olm) × World primitives :=
  (encryptTargets outside (deletionEvent alice.owner deletion) alice.machine (targetsBut alice.owner.deviceId ownBundle)).exec
    (.ofProfile alice)

def rowOf (envelopes : List EncryptedEnvelope) : OutboxRow :=
  { logicalMessageId := "d"
    encodedFrame := frame "f" (.sendEnvelopes { envelopes })
    createdAtMs := 5 }

theorem rowOf_envelopes (envelopes : List EncryptedEnvelope) : (rowOf envelopes).envelopes = envelopes := rfl

def row : OutboxRow := rowOf ((sealing.1.toOption.map Prod.fst).getD [])

theorem of_toOption {α : Type} {x : Except Error (List EncryptedEnvelope × α) × World primitives}
    (h : x.1.toOption.isSome = true) : ∃ a w, x = (.ok ((x.1.toOption.map Prod.fst).getD [], a), w) := by
  obtain ⟨result, w⟩ := x
  cases result with
  | error => cases h
  | ok r => exact ⟨r.2, w, rfl⟩

theorem row_announces : Announces primitives outside alice.owner deletion row := by
  have hsealed : sealing.1.toOption.isSome = true := by decide +kernel
  obtain ⟨machine, w, hexec⟩ := of_toOption hsealed
  refine ⟨ownBundle, ⟨⟨0, rfl⟩, rfl, rfl⟩, by decide +kernel, rfl, alice.machine, machine, .ofProfile alice, w, ?_⟩
  unfold row
  rw [rowOf_envelopes]
  exact hexec

def stored : Ledger primitives :=
  { Ledger.empty (P := primitives) alice.owner with
    tables := { Persisted.empty with tombstones := Table.put ∅ deletion }
    past := [.deletedHere deletion] }

/-- The deletion is stored, and its event is offered. -/
def offered : Ledger primitives :=
  { stored with
    tables := stored.tables.offer row
    past := .announced deletion row :: stored.past }

theorem offered_reachable :
    (ledgerSystem outside alice.owner).ReachableUnder (fun s l => l.2.Careful s) offered := by
  have hstored : (ledgerSystem outside alice.owner).ReachableUnder (fun s l => l.2.Careful s) stored := by
    refine .step (i := (.deleteConversation "bob" "bob", .deletedHere deletion)) (.init rfl) ?_ ⟨.inr ?_, rfl⟩
    · exact ⟨List.not_mem_nil, fun old hold => absurd hold (Table.not_mem_empty old)⟩
    · exact ⟨rfl, "bob", rfl⟩
  refine .step (i := (.syncPendingConversationDeletions, .announced deletion row)) hstored trivial ⟨.inl ?_, ?_⟩
  · exact ⟨⟨true, Table.mem_put.2 (.inl rfl)⟩, row_announces⟩
  · have huniform : row.Uniform := row_announces.ids.2
    unfold Change.run Change.effect Ledger.statement Statement.run
    dsimp only
    rw [if_pos huniform]
    rfl

/-- The server accepts the event, which carries the deletion. -/
theorem told_deletion_settled :
    Change.AccountsFor outside alice.owner
      (.serverEvent (frame "" (.sendAccepted { logicalMessageId := "d", acceptedAtMs := 0 }))) (.completed "d" 3) offered
      { offered with
        tables := offered.tables.complete "d" 3
        past := .completed "d" 3 :: offered.past } deletion := by
  have hoffered : "d" ∈ offered.tables.offered := by
    obtain ⟨e, he⟩ := List.exists_mem_of_ne_nil _ row_announces.ids.1
    exact List.mem_append_left _ (List.mem_map.2 ⟨e, he, row_announces.ids.2 e he⟩)
  refine (deletions_told primitives outside alice).2 offered offered_reachable _ (.completed "d" 3) _
    (.inr ?_) hoffered rfl deletion (Table.mem_put.2 (.inl rfl)) rfl
  exact ⟨⟨_, _, rfl, rfl, rfl⟩, .inl rfl⟩

end Scenario.Untold

end TuiChat
