import Mathlib.Algebra.BigOperators.Group.List.Basic
import Mathlib.Algebra.Field.Rat
import Mathlib.Data.List.Nodup
import Mathlib.Tactic.Use
import QuotaShare.Cluster.View
import QuotaShare.Scalar

/-!
# The budget of a cluster

Each node counts the online nodes for itself: it leaves itself out and adds itself again, whatever
its state is.  The online nodes come to the same number, namely how many they are, so the shares
that they derive from it add up to the overall rate.  A node that is not online counts one more.
-/

namespace QuotaShare

namespace NodeStates

/-- The online nodes, in the order of their names. -/
def online (m : NodeStates) : List String :=
  (m.toList.filter fun (_, state) => state.isOnline).map Prod.fst

theorem mem_online {m : NodeStates} {node : String} :
  node ∈ m.online ↔ m[node]? = some .online
  := by
  rw [online, List.mem_map]
  constructor
  · rintro ⟨⟨node, state⟩, hmem, rfl⟩
    obtain ⟨hmem, honline⟩ := List.mem_filter.mp hmem
    rw [Std.ExtTreeMap.mem_toList_iff_getElem?_eq_some] at hmem
    cases state with
    | online => apply hmem
    | _ => cases honline
  · intro h
    use (node, .online)
    constructor
    · apply List.mem_filter.mpr
      use Std.ExtTreeMap.mem_toList_iff_getElem?_eq_some.mpr h
      rfl
    · rfl

/-- No node is listed twice. -/
theorem nodup_online (m : NodeStates) :
  m.online.Nodup
  := by
  rw [online, List.nodup_iff_pairwise_ne, List.pairwise_map]
  apply List.Pairwise.filter
  apply List.Pairwise.imp _ Std.ExtTreeMap.distinct_keys_toList
  intro a b h heq
  apply h (Std.compare_eq_iff_eq.mpr heq)

/-- A node counts the online nodes other than itself, and itself. -/
theorem onlineCount_eq (m : NodeStates) (node : String) :
  onlineCount (some m) node = m.online.countP (· != node) + 1
  := by
  rw [online, List.countP_map, List.countP_filter]
  rfl

/-- The nodes other than a given one are those that are left when it is counted out. -/
theorem countP_ne_add_count (nodes : List String) (node : String) :
  nodes.countP (· != node) + nodes.count node = nodes.length
  := by
  rw [List.length_eq_countP_add_countP (· != node), Nat.add_left_cancel_iff, List.count]
  apply List.countP_congr
  intro other _
  rw [decide_eq_true_iff, bne_iff_ne, not_not, beq_iff_eq]

/-- An online node counts as many nodes as there are online. -/
theorem onlineCount_of_online {m : NodeStates} {node : String} (h : m[node]? = some .online) :
  onlineCount (some m) node = m.online.length
  := by
  have hcount := countP_ne_add_count m.online node
  rw [List.count_eq_one_of_mem m.nodup_online (mem_online.mpr h)] at hcount
  rw [onlineCount_eq, hcount]

/-- A node that is not online counts one node more than there are online. -/
theorem onlineCount_of_not_online {m : NodeStates} {node : String} (h : m[node]? ≠ some .online) :
  onlineCount (some m) node = m.online.length + 1
  := by
  have hcount := countP_ne_add_count m.online node
  rw [List.count_eq_zero_of_not_mem fun hmem => h (mem_online.mp hmem)] at hcount
  rw [onlineCount_eq, ← hcount, Nat.add_zero]

end NodeStates

/-- As many equal shares of a rate as there are nodes add up to the rate. -/
theorem sum_replicate_share {nodes : Nat} (h : nodes ≠ 0) (overall : Rat) :
  (List.replicate nodes (share overall nodes)).sum = overall
  := by
  rw [List.sum_replicate, nsmul_eq_mul, share]
  apply mul_div_cancel₀
  apply Nat.cast_ne_zero.mpr h

/-- For every map of nodes in any states of which at least one is online: each online node counts as
many nodes as there are online, every other node counts one more, and the exact shares of all online
nodes, each with its own count, add up to the overall rate. -/
theorem sum_shares_eq (m : NodeStates) (h : ∃ node : String, m[node]? = some NodeState.online)
    (overall : Rat) :
  (∀ node : String, m[node]? = some NodeState.online →
    NodeStates.onlineCount (some m) node = m.online.length) ∧
  (∀ node : String, m[node]? ≠ some NodeState.online →
    NodeStates.onlineCount (some m) node = m.online.length + 1) ∧
  (m.online.map fun node => share overall (NodeStates.onlineCount (some m) node)).sum = overall
  := by
  refine ⟨fun node => NodeStates.onlineCount_of_online,
    fun node => NodeStates.onlineCount_of_not_online, ?_⟩
  obtain ⟨node, hnode⟩ := h
  have hmem := NodeStates.mem_online.mpr hnode
  have hshares : (m.online.map fun node =>
      share overall (NodeStates.onlineCount (some m) node)) =
      List.replicate m.online.length (share overall m.online.length) := by
    rw [← List.map_const']
    apply List.map_congr_left
    intro node hnode
    rw [NodeStates.onlineCount_of_online (NodeStates.mem_online.mp hnode)]
  rw [hshares]
  apply sum_replicate_share
  apply Nat.ne_of_gt (List.length_pos_of_mem hmem)

/-- Three online nodes among nodes in other states: each of the three has a third of a rate, and a
node that is offline or unknown would have a fourth. -/
theorem sum_shares_eq_of_three :
  let m : NodeStates := .ofPairs [("a", .online), ("b", .offline), ("c", .online),
    ("d", .other "BOOTSTRAP"), ("e", .online), ("f", .error)]
  (∃ node : String, m[node]? = some NodeState.online) ∧ m.online = ["a", "c", "e"] ∧
    NodeStates.onlineCount (some m) "c" = 3 ∧ NodeStates.onlineCount (some m) "b" = 4 ∧
    NodeStates.onlineCount (some m) "g" = 4 ∧
    (["a", "c", "e"].map fun node => share (100 : Rat) (NodeStates.onlineCount (some m) node)).sum =
      100
  := by
  intro m
  have honline : m.online = ["a", "c", "e"] := by decide +kernel
  have hc : m["c"]? = some NodeState.online := by decide +kernel
  have hb : m["b"]? ≠ some NodeState.online := by decide +kernel
  have hg : m["g"]? ≠ some NodeState.online := by decide +kernel
  obtain ⟨hcount, hother, hsum⟩ := sum_shares_eq m ⟨"c", hc⟩ 100
  rw [honline] at hcount hother hsum
  exact ⟨⟨"c", hc⟩, honline, hcount "c" hc, hother "b" hb, hother "g" hg, hsum⟩

end QuotaShare
