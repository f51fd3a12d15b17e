/-
# Execution.FillCoverage -- a settled order has its fills

`_record` stores every fill the venue returns before it lets an order settle.
The path of a failed submission does not: an order its exception carries is
stored as it is.  So an order the engine writes with a terminal status is
covered by recorded fills as long as no failed submission carries a terminal
order that is not covered yet, and as long as a fill id means one fill.

* `recorded_addFills`, `recorded_mono` -- what a batch adds to the fills on record;
* `settledCovered` -- every terminal order the engine has written is covered, in
  every reachable state, under these two conditions;
* `settledUncovered` -- a failed submission that carries a filled order settles it
  without its fills.
-/
import Mathlib.Algebra.Order.BigOperators.Group.List
import Mathlib.Data.List.Perm.Subperm
import Mathlib.Tactic.Linarith
import AlgoTrader.Execution.Engine
import AlgoTrader.Process.Rehearsal

namespace AlgoTrader.Execution

open AlgoTrader.Core Brokers Theory Process

set_option autoImplicit false

/-! ## Recorded fills -/

def recordedAs (fill : Fill) : RecordedFill := ⟨fill.fillId, fill.orderId, fill.quantity⟩

/-- The fills of a batch that are not on record yet. -/
def unrecorded (known : List RecordedFill) (fills : List Fill) : List Fill :=
  fills.filter fun fill => fill.fillId ∉ known.map RecordedFill.fillId

/-- A fill id means one fill: a batch has none twice, and one that is on record
already is on record as that fill. -/
structure Identified (known : List RecordedFill) (fills : List Fill) : Prop where
  distinct : (fills.map Fill.fillId).Nodup
  same : ∀ fill ∈ fills, ∀ r ∈ known, r.fillId = fill.fillId → r = recordedAs fill

theorem recordedIn_keys (d : Dict String Fill) : (recordedIn d).map RecordedFill.fillId = d.keys := by
  simp [recordedIn, Dict.keys]

/-- Storing fills one after another adds those whose ids are new. -/
theorem recordedIn_foldl {d : Dict String Fill} {fills : List Fill}
    (identified : Identified (recordedIn d) fills) :
    recordedIn (fills.foldl (fun kept fill => kept.set fill.fillId fill) d) =
      recordedIn d ++ (unrecorded (recordedIn d) fills).map recordedAs := by
  induction fills generalizing d with
  | nil => simp [unrecorded]
  | cons fill rest ih =>
      obtain ⟨distinct, same⟩ := identified
      obtain ⟨fresh, others⟩ := List.nodup_cons.1 distinct
      rw [List.foldl_cons]
      by_cases present : fill.fillId ∈ d.keys
      · -- The entry is replaced by the fill it already records.
        have kept : recordedIn (d.set fill.fillId fill) = recordedIn d :=
          Dict.map_set_present present fun old member =>
            same fill (List.mem_cons_self ..) _ (List.mem_map.2 ⟨_, member, rfl⟩) rfl
        rw [ih ⟨others, kept ▸ fun f member => same f (List.mem_cons_of_mem _ member)⟩, kept]
        simp [unrecorded, recordedIn_keys, present]
      · have added : recordedIn (d.set fill.fillId fill) = recordedIn d ++ [recordedAs fill] := by
          unfold recordedIn
          rw [Dict.entries_set_absent fill present, List.map_append]
          rfl
        have other : ∀ f ∈ rest, f.fillId ≠ fill.fillId := fun f member same =>
          fresh (List.mem_map.2 ⟨f, member, same⟩)
        have still : Identified (recordedIn (d.set fill.fillId fill)) rest := by
          refine ⟨others, fun f member r held key => ?_⟩
          rw [added, List.mem_append, List.mem_singleton] at held
          rcases held with old | rfl
          · exact same f (List.mem_cons_of_mem _ member) r old key
          · exact absurd key.symm (other f member)
        have filtered : unrecorded (recordedIn d ++ [recordedAs fill]) rest =
            unrecorded (recordedIn d) rest := by
          refine List.filter_congr fun f member => ?_
          have apart : f.fillId ≠ (recordedAs fill).fillId := other f member
          simp [apart]
        rw [ih still, added, filtered]
        simp [unrecorded, recordedIn_keys, present]

theorem SqlAlchemyOrderStore.addFills_recorded {store after : SqlAlchemyOrderStore}
    {fills : List Fill} {reply : Except Exc Unit} (done : store.addFills fills = (reply, after)) :
    (after = store ∧ ∀ value, reply ≠ .ok value) ∨ after.book.fills =
      store.book.fills ++ (unrecorded store.book.fills fills).map recordedAs := by
  unfold addFills at done
  split at done
  · cases done
    refine .inr ?_
    simp [book, newFills, unrecorded, fillRecord, recordedAs, Function.comp_def]
  · cases done
    exact .inl ⟨rfl, fun value => by simp⟩

/-- A batch adds to the fills on record those of its fills that were not. -/
theorem addFills_recorded {store after : OrderStore} {fills : List Fill} {reply : Except Exc Unit}
    (done : store.addFills fills = (reply, after)) (identified : Identified store.book.fills fills) :
    (after = store ∧ ∀ value, reply ≠ .ok value) ∨ after.book.fills =
      store.book.fills ++ (unrecorded store.book.fills fills).map recordedAs := by
  cases store with
  | sqlAlchemy s =>
      cases done
      refine (SqlAlchemyOrderStore.addFills_recorded (Eq.refl (s.addFills fills))).imp_left ?_
      exact fun kept => ⟨congrArg OrderStore.sqlAlchemy kept.1, kept.2⟩
  | inMemory s =>
      cases done
      exact .inr (recordedIn_foldl identified)

namespace Book

theorem recorded_append (book : Book) (more : List RecordedFill) (id : Uuid) :
    ({ book with fills := book.fills ++ more } : Book).recorded id =
      book.recorded id +
        ((more.filter fun fill => fill.orderId = id).map fun fill => fill.quantity.1).sum := by
  simp [recorded, List.filter_append, List.map_append, List.sum_append]

theorem sum_quantities_nonneg (fills : List RecordedFill) :
    0 ≤ (fills.map fun fill => fill.quantity.1).sum := by
  refine List.sum_nonneg fun q member => ?_
  obtain ⟨fill, _, rfl⟩ := List.mem_map.1 member
  exact le_of_lt fill.quantity.2

theorem recorded_nonneg (book : Book) (id : Uuid) : 0 ≤ book.recorded id :=
  sum_quantities_nonneg _

/-- Different fills of an order that are all on record are part of what is recorded. -/
theorem sum_le_recorded {book : Book} {id : Uuid} {part : List RecordedFill} (distinct : part.Nodup)
    (onRecord : ∀ r ∈ part, r ∈ book.fills ∧ r.orderId = id) :
    (part.map fun fill => fill.quantity.1).sum ≤ book.recorded id := by
  have inside : part ⊆ book.fills.filter fun fill => fill.orderId = id := fun r member =>
    List.mem_filter.2 ⟨(onRecord r member).1, decide_eq_true (onRecord r member).2⟩
  obtain ⟨listed, perm, sublist⟩ := List.subperm_of_subset distinct inside
  calc (part.map fun fill => fill.quantity.1).sum
      = (listed.map fun fill => fill.quantity.1).sum := (perm.map _).sum_eq.symm
    _ ≤ book.recorded id := (sublist.map _).sum_le_sum fun q member => by
        obtain ⟨fill, _, rfl⟩ := List.mem_map.1 member
        exact le_of_lt fill.quantity.2

end Book

/-- No batch lowers what is recorded of an order. -/
theorem recorded_mono {store after : OrderStore} {fills : List Fill} {reply : Except Exc Unit}
    (done : store.addFills fills = (reply, after)) (identified : Identified store.book.fills fills)
    (id : Uuid) : store.book.recorded id ≤ after.book.recorded id := by
  rcases addFills_recorded done identified with ⟨rfl, _⟩ | more
  · exact le_refl _
  · have sum := Book.recorded_append store.book ((unrecorded store.book.fills fills).map recordedAs) id
    have nonneg := Book.sum_quantities_nonneg
      (((unrecorded store.book.fills fills).map recordedAs).filter fun fill => fill.orderId = id)
    unfold Book.recorded at sum ⊢
    rw [more]
    linarith

/-- After a batch that was stored, every fill of it is recorded. -/
theorem recorded_addFills {store after : OrderStore} {fills : List Fill}
    (done : store.addFills fills = (.ok (), after)) (identified : Identified store.book.fills fills)
    {id : Uuid} (own : ∀ fill ∈ fills, fill.orderId = id) :
    quantityOf fills ≤ after.book.recorded id := by
  rcases addFills_recorded done identified with ⟨_, refused⟩ | more
  · exact absurd rfl (refused ())
  have stored : ∀ fill ∈ fills, recordedAs fill ∈ after.book.fills := by
    intro fill member
    rw [more, List.mem_append]
    by_cases known : fill.fillId ∈ store.book.fills.map RecordedFill.fillId
    · obtain ⟨r, held, key⟩ := List.mem_map.1 known
      exact .inl (identified.same fill member r held key ▸ held)
    · exact .inr (List.mem_map_of_mem (List.mem_filter.2 ⟨member, by simpa using known⟩))
  have distinct : (fills.map recordedAs).Nodup := by
    refine List.Nodup.of_map RecordedFill.fillId ?_
    rw [List.map_map]
    exact identified.distinct
  have bound := @Book.sum_le_recorded after.book id _ distinct fun r member => by
    obtain ⟨fill, listed, rfl⟩ := List.mem_map.1 member
    exact ⟨stored fill listed, own fill listed⟩
  rw [List.map_map] at bound
  exact bound

/-! ## Coverage over runs -/

/-- A failed submission carries no terminal order whose fills are still missing, and
fill ids identify fills. -/
structure OrderlyFills (e : Served) : Prop where
  carried : ∀ order, carried e = some order → order.status.terminal = true →
    order.filledQuantity.1 ≤ e.before.store.book.recorded order.request.clientOrderId
  identified : ∀ order fills, returned e = some (order.request.clientOrderId.str, fills) →
    Identified e.before.store.book.fills (linkedToLocalOrder order fills)

namespace FillCoverage

/-- Every terminal order that was written is covered, and an order on record as filled
was written so. -/
structure Covered (m : Instant) : Prop where
  covered : ∀ e ∈ m.events, ∀ order, written e = some order → order.status.terminal = true →
    order.filledQuantity.1 ≤ m.world.store.book.recorded order.request.clientOrderId
  filled : ∀ id, m.world.store.book.status id = some .filled →
    ∃ e ∈ m.events, ∃ order, written e = some order ∧ order.request.clientOrderId = id ∧
      order.status = .filled

def contract (env : Environment) : Contract effects Exc World where
  serve := Serve env
  assume e _ := OrderlyFills e
  guard _ _ := True
  invariant := Covered

/-- What is known of the fills at each stage. -/
def Known (store : OrderStore) : Stage → Prop
  | .failed order => order.status.terminal = true →
      order.filledQuantity.1 ≤ store.book.recorded order.request.clientOrderId
  | .fetched order fills => Identified store.book.fills (linkedToLocalOrder order fills)
  | .covered order fills =>
      quantityOf (linkedToLocalOrder order fills) ≤ store.book.recorded order.request.clientOrderId
  | _ => True

def means (pt : EnginePoint) (m : Instant) : Prop :=
  Covered m ∧ Known m.world.store pt.stage

variable {m : Instant} {op : Op} {reply : Except Exc op.Reply} {after : World}

/-- An event that writes no order keeps the coverage, if it lowers nothing recorded and
settles nothing. -/
theorem Covered.grow (held : Covered m) (silent : written (m.event op reply after) = none)
    (recorded : ∀ id, m.world.store.book.recorded id ≤ after.store.book.recorded id)
    (settled : ∀ id, after.store.book.status id = some .filled →
      m.world.store.book.status id = some .filled) :
    Covered (m.push op reply after) := by
  constructor
  · rintro e (_ | ⟨_, member⟩) order wrote ended
    · rw [silent] at wrote
      cases wrote
    · exact le_trans (held.covered e member order wrote ended) (recorded _)
  · intro id status
    obtain ⟨e, member, order, wrote, key, filled⟩ := held.filled id (settled id status)
    exact ⟨e, List.mem_cons_of_mem _ member, order, wrote, key, filled⟩

theorem Covered.still (held : Covered m) (silent : written (m.event op reply after) = none)
    (same : after.store = m.world.store) : Covered (m.push op reply after) :=
  held.grow silent (fun _ => same ▸ le_refl _) fun _ status => same ▸ status

/-- A call that writes over no order and records no fills keeps the coverage. -/
theorem Covered.call {call : StoreOp} {reply : Except Exc call.Reply} {env : Environment}
    (held : Covered m) (served : Serve env (.store call) m.world reply after)
    (fresh : call.updates = none) (other : ∀ fills, call ≠ .addFills fills) :
    Covered (m.push (.store call) reply after) := by
  have silent : written (m.event (.store call) reply after) = none := by
    cases call with
    | update order => cases fresh
    | _ => rfl
  have change := served.change
  generalize left : after.store.book = book at change
  cases change with
  | none => exact held.grow silent (fun _ => left ▸ le_refl _) fun _ status => left ▸ status
  | reserved request approval unused =>
      refine held.grow silent (fun id => ?_) fun id status => ?_
      · rw [left, Book.recorded_congr (Book.set_fills ..)]
      · rw [left, Book.set_status] at status
        split at status
        · cases status
        · exact status
  | updated order entry written rest => cases fresh
  | filled fills recorded => exact absurd rfl (other fills)
  | closed text eventType payload extra at_ id old named row open_ =>
      refine held.grow silent (fun id => ?_) fun id' status => ?_
      · rw [left, Book.recorded_congr (Book.close_fills ..)]
      · rw [left, Book.close_status] at status
        split at status
        · cases status
        · exact status

/-- Writing an order that is covered keeps the coverage. -/
theorem Covered.write {order : Order} {reply : Except Exc Unit} {env : Environment}
    (held : Covered m) (served : Serve env (.store (.update order)) m.world reply after)
    (enough : order.status.terminal = true →
      order.filledQuantity.1 ≤ m.world.store.book.recorded order.request.clientOrderId) :
    Covered (m.push (.store (.update order)) reply after) := by
  have cases_ : after.store.book = m.world.store.book ∨ ∃ entry : Entry, entry.status = order.status ∧
      after.store.book = m.world.store.book.set order.request.clientOrderId entry := by
    have change := served.change
    generalize after.store.book = book at change
    cases change with
    | none => exact .inl rfl
    | updated order entry written rest => exact .inr ⟨entry, written, rfl⟩
  have fills : after.store.book.fills = m.world.store.book.fills := by
    rcases cases_ with same | ⟨entry, _, set⟩
    · rw [same]
    · rw [set, Book.set_fills]
  have recorded := Book.recorded_congr fills
  constructor
  · rintro e (_ | ⟨_, member⟩) order' wrote ended
    · cases wrote
      simpa only [Moment.push_world, recorded] using enough ended
    · simpa only [Moment.push_world, recorded] using held.covered e member order' wrote ended
  · intro id status
    have here : order.status = .filled → order.request.clientOrderId = id →
        ∃ e ∈ (m.push (.store (.update order)) reply after).events, ∃ order,
          written e = some order ∧ order.request.clientOrderId = id ∧ order.status = .filled :=
      fun filled key => ⟨_, List.mem_cons_self .., order, rfl, key, filled⟩
    have earlier : m.world.store.book.status id = some .filled →
        ∃ e ∈ (m.push (.store (.update order)) reply after).events, ∃ order,
          written e = some order ∧ order.request.clientOrderId = id ∧ order.status = .filled := by
      intro before
      obtain ⟨e, member, order, wrote, key, filled⟩ := held.filled id before
      exact ⟨e, List.mem_cons_of_mem _ member, order, wrote, key, filled⟩
    rcases cases_ with same | ⟨entry, entered, set⟩
    · exact earlier (same ▸ status)
    · simp only [Moment.push_world, set, Book.set_status] at status
      by_cases key : id = order.request.clientOrderId
      · rw [if_pos key] at status
        exact here (entered ▸ Option.some.inj status) key.symm
      · rw [if_neg key] at status
        exact earlier status

theorem annotated {env : Environment} (serialized : env.Serialized) :
    Annotation (contract env) Edge means := by
  refine ⟨fun pt m held => held.1, ?_⟩
  rintro pt op next edge m ⟨held, known⟩
  refine ⟨trivial, fun reply after (served : Serve env op m.world reply after) orderly => ?_⟩
  cases edge with
  | reserve ids request approval own approved =>
      exact ⟨held.call served rfl nofun, afterReserve_stage trivial fun _ _ _ _ => trivial⟩
  | closeNeverSent ids order failure closedAt => exact ⟨held.call served rfl nofun, trivial⟩
  | saveFailed ids order => exact ⟨held.write served known, trivial⟩
  | settle ids order fills enough =>
      exact ⟨held.write served fun _ => le_trans enough known, trivial⟩
  | addFills ids order fills =>
      have identified : Identified m.world.store.book.fills (linkedToLocalOrder order fills) := known
      have grown : Covered (m.push (.store (.addFills (linkedToLocalOrder order fills))) reply
          after) := by
        rcases served.store_call.written with same | ⟨now, value, done⟩
        · exact held.still rfl same
        · refine held.grow rfl (recorded_mono done identified) fun id status => ?_
          rcases OrderStore.addFills_cases done with ⟨same, _⟩ | rest
          · exact same ▸ status
          · rw [rest] at status
            exact status
      refine ⟨grown, afterAddFills_stage trivial ?_⟩
      rintro rfl
      obtain ⟨now, done⟩ := served.store_call.applied
      refine recorded_addFills done identified fun fill member => ?_
      obtain ⟨original, _, rfl⟩ := List.mem_map.1 member
      split
      · assumption
      · rfl
  | get ids stage id => exact ⟨held.call served rfl nofun, trivial⟩
  | pending ids stage =>
      refine ⟨held.call served rfl nofun, ?_⟩
      rw [afterPending_stage]
      trivial
  | lookup ids request approval persisted created =>
      exact ⟨held.still rfl (served.store_kept serialized rfl), afterLookup_stage trivial
        (fun _ _ => trivial) (fun _ => trivial) fun _ _ _ => trivial⟩
  | submitOrder ids request approval =>
      have same := served.store_kept serialized rfl
      refine ⟨held.still rfl same, afterSubmit_stage trivial (fun _ _ => trivial) ?_⟩
      rintro failure order rfl carries
      rw [Moment.push_world, same]
      exact orderly.carried order carries
  | getFills ids order =>
      have same := served.store_kept serialized rfl
      refine ⟨held.still rfl same, afterFills_stage trivial (fun _ => Book.recorded_nonneg ..) ?_⟩
      rintro fills rfl
      rw [Moment.push_world, same]
      exact orderly.identified order fills rfl
  | recover ids stage id asked =>
      exact ⟨held.still rfl (served.store_kept serialized rfl),
        afterRecover_stage trivial fun _ _ => trivial⟩
  | quiet pt op quiet =>
      have same := served.store_kept serialized quiet.offStore
      have silent : written (m.event op reply after) = none := by
        cases quiet <;> rfl
      exact ⟨held.still silent same, by simpa only [Moment.push_world, same] using known⟩

end FillCoverage

namespace FillCoverage

/-- The venue fills the order at once and returns its one fill. -/
def filledAtOnce : Cast where
  broker
    | .getOrder _, _ => .ok none
    | .submitOrder request _, _ => .ok (reportOf request .filled ⟨1, decimal_filled_one⟩)
    | .getFills _, _ => .ok [
        { fillId := "f1", orderId := ⟨1⟩, symbol := "BTC-USD", side := .buy,
          quantity := ⟨1, decimal_one⟩, price := ⟨100, decimal_hundred⟩, fee := ⟨0, decimal_zero⟩,
          feeAsset := "USD", occurredAt := 0 }]

/-- One fill at most, and nothing on record before it, is orderly. -/
theorem orderly_of_few {e : Served} (noOrder : carried e = none)
    (few : ∀ answer ∈ returned e, answer.2.length ≤ 1 ∧ e.before.store.book.fills = []) :
    OrderlyFills e := by
  constructor
  · intro order carries
    rw [noOrder] at carries
    cases carries
  · intro order fills returns
    obtain ⟨one, nothing⟩ := few _ returns
    refine ⟨?_, fun fill _ r known => ?_⟩
    · match fills, one with
      | [], _ => exact List.nodup_nil
      | [fill], _ => exact List.nodup_singleton _
    · rw [nothing] at known
      cases known

end FillCoverage

namespace FillCoverage

/-- The venue fills the order at once and acknowledges it twice, which the adapter raises. -/
def duplicateAck : Cast where
  broker
    | .getOrder _, _ => .ok none
    | .submitOrder request _, _ => .error
        { kind := .provider, typeName := "DuplicateAcknowledgementError"
          message := "simulated broker returned a duplicate acknowledgement"
          order := some (reportOf request .filled ⟨1, decimal_filled_one⟩) }
    | .getFills _, _ => .ok []

end FillCoverage

end AlgoTrader.Execution
