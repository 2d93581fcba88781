import MeteringBilling.Proofs.Deliveries

/-! Serial deliveries, with a failure possible at any statement: each commits completely or
not at all, and each event commits at most once. -/

namespace MeteringBilling.Deduplication

/-- The handler's writes and the mark are committed together, or the tables stay as they are. -/
def Atomic (delivery : Delivery) (store : Store) : Prop :=
  (delivery.Commits store →
    delivery.event.applied? delivery.env store.database = some (delivery.after store).database) ∧
  (¬ delivery.Commits store → (delivery.after store).database = store.database)

/-- The deliveries of a schedule that commit. -/
def committing : List Delivery → Store → List Delivery
  | [], _ => []
  | delivery :: rest, store =>
    if delivery.Commits store then delivery :: committing rest (delivery.after store)
    else committing rest (delivery.after store)

def calm (delivery : Delivery) : Delivery := { delivery with env := delivery.env.calm }

theorem atomic (delivery : Delivery) (store : Store) : Atomic delivery store := by
  rcases commits_cases delivery store with ⟨commits, applied⟩ | ⟨fails, same⟩
  · exact ⟨fun _ => applied, fun fails => (fails commits).elim⟩
  · exact ⟨fun commits => (fails commits).elim, fun _ => same⟩

theorem atomic_each (schedule : List Delivery) (store : Store) : deliveries.Each Atomic schedule store := by
  induction schedule generalizing store with
  | nil => trivial
  | cons delivery rest ih => exact fun next _ => ⟨atomic delivery store, ih next⟩

theorem committing_sublist (schedule : List Delivery) (store : Store) :
    (committing schedule store).Sublist schedule := by
  induction schedule generalizing store with
  | nil => exact .slnil
  | cons delivery rest ih =>
    rw [committing]
    split
    · exact (ih _).cons_cons delivery
    · exact (ih _).cons delivery

theorem committing_unmarked {schedule : List Delivery} {store : Store} {delivery : Delivery}
    (member : delivery ∈ committing schedule store) : store.database.processedRows delivery.event.id = [] := by
  induction schedule generalizing store with
  | nil => cases member
  | cons first rest ih =>
    rw [committing] at member
    split at member
    · next commits =>
      rcases List.mem_cons.mp member with rfl | later
      · exact commits.1
      · exact marked_after (ih later)
    · exact marked_after (ih member)

theorem committing_nodup (schedule : List Delivery) (store : Store) :
    ((committing schedule store).map fun delivery => delivery.event.id).Nodup := by
  induction schedule generalizing store with
  | nil => exact .nil
  | cons delivery rest ih =>
    rw [committing]
    split
    · next commits =>
      rw [List.map_cons, List.nodup_cons]
      refine ⟨fun repeated => ?_, ih _⟩
      obtain ⟨other, member, same⟩ := List.mem_map.mp repeated
      exact commits.2 (same ▸ committing_unmarked member)
    · exact ih _

theorem committing_run (schedule : List Delivery) {store alone : Store} (same : alone.database = store.database) :
    ∃ final rest, deliveries.run schedule store = some final ∧
      deliveries.run ((committing schedule store).map calm) alone = some rest ∧ rest.database = final.database := by
  induction schedule generalizing store alone with
  | nil => exact ⟨store, alone, rfl, rfl, same⟩
  | cons delivery schedule ih =>
    rw [committing]
    rcases commits_cases delivery store with ⟨commits, applied⟩ | ⟨fails, kept⟩
    · rw [if_pos commits]
      have quiet : (calm delivery).event.applied? (calm delivery).env alone.database =
          some (delivery.after store).database := by
        rw [← applied, same]
        exact applied?_calm _ _ _
      have equal : ((calm delivery).after alone).database = (delivery.after store).database :=
        (delivered_first (Env.calm_quiet _) (by rw [same]; exact commits.1) quiet).2
      obtain ⟨final, rest, ran, ranAlone, ended⟩ := ih equal
      exact ⟨final, rest, Machine.run_step rfl ran, Machine.run_step rfl ranAlone, ended⟩
    · rw [if_neg fails]
      obtain ⟨final, rest, ran, ranAlone, ended⟩ := ih (same.trans kept.symm)
      exact ⟨final, rest, Machine.run_step rfl ran, ranAlone, ended⟩

theorem serial_deduplication (schedule : List Delivery) (store : Store) :
    deliveries.Each Atomic schedule store ∧ (committing schedule store).Sublist schedule ∧
      ((committing schedule store).map fun delivery => delivery.event.id).Nodup ∧
      ∃ final alone, deliveries.run schedule store = some final ∧
        deliveries.run ((committing schedule store).map calm) store = some alone ∧ alone.database = final.database :=
  ⟨atomic_each schedule store, committing_sublist schedule store, committing_nodup schedule store,
    committing_run schedule rfl⟩

end MeteringBilling.Deduplication
