/-
  RedisOperator.Instance.ClusterNodes

  The text of `CLUSTER NODES`, and what the instance manager reads from it: its
  own node, that node's master and the slots it owns.  Redis writes a line for
  each node, with blanks between the fields; the slots come last, and among them
  marks of slots that are on the move.
-/

import RedisOperator.Cluster.Slots
import RedisOperator.Lib.GoURL
import RedisOperator.Lib.LineFormat

namespace RedisOperator.Replication

open Lib

/-! ## The parser -/

/-- `strings.Fields`. -/
def fields (cs : List Char) : List (List Char) :=
  (cs.splitOnP isSpace).filter fun field => !field.isEmpty

/-- `strconv.ParseInt(s, 10, 32)`, if it succeeds. -/
def parseInt32 (cs : List Char) : Option Int :=
  match atoi cs with
  | (n, true) => if -2 ^ 31 ≤ n ∧ n < 2 ^ 31 then some n else none
  | (_, false) => none

/-- A round of `parseSlotRanges`. -/
def parseSlotRange (token : List Char) : Option SlotRange :=
  if ['['] <+: token then none
  else
    match cut '-' token with
    | (_, _, false) => (parseInt32 token).map fun slot => ⟨slot, slot⟩
    | (first, last, true) =>
      (parseInt32 first).bind fun start => (parseInt32 last).map fun stop => ⟨start, stop⟩

/-- `parseSlotRanges`. -/
def parseSlotRanges (tokens : List (List Char)) : List SlotRange := tokens.filterMap parseSlotRange

/-- `ClusterNode`. -/
structure ClusterNode where
  id : List Char
  ip : List Char
  port : Int
  flags : List (List Char)
  masterID : List Char
  configEpoch : Int
  linkState : List Char
  slotRanges : List SlotRange

/-- `net.SplitHostPort`, where it succeeds. -/
abbrev SplitHostPort := List Char → Option (List Char × List Char)

/-- `parseClusterNodeAddress`. -/
def parseClusterNodeAddress (splitHostPort : SplitHostPort) (addr : List Char) : List Char × Int :=
  match splitHostPort (cut '@' addr).1 with
  | none => ([], 0)
  | some (host, port) => (host, (atoi port).1)

/-- A round of `parseClusterNodes`. -/
def parseClusterNode (splitHostPort : SplitHostPort) (line : List Char) : Option ClusterNode :=
  match fields (trimSpace line) with
  | id :: addr :: flags :: masterID :: _ :: _ :: epoch :: linkState :: tokens =>
    let (ip, port) := parseClusterNodeAddress splitHostPort addr
    some {
      id := id, ip := ip, port := port, flags := flags.splitOn ',', masterID := masterID
      configEpoch := (atoi epoch).1, linkState := linkState, slotRanges := parseSlotRanges tokens }
  | _ => none

/-- `parseClusterNodes`. -/
def parseClusterNodes (splitHostPort : SplitHostPort) (raw : List Char) : List ClusterNode :=
  (raw.splitOn '\n').filterMap (parseClusterNode splitHostPort)

/-- `hasNodeFlag`, for the flag `myself`. -/
def ClusterNode.isSelf (node : ClusterNode) : Bool := node.flags.contains "myself".toList

/-- `findSelfClusterNode`: id, id of the master and slots. -/
def findSelfClusterNode : List ClusterNode → List Char × List Char × List SlotRange
  | [] => ([], [], [])
  | node :: nodes =>
    if node.isSelf = true then
      (node.id, if node.masterID = ['-'] then [] else node.masterID, node.slotRanges)
    else findSelfClusterNode nodes

/-! ## What Redis writes -/

/-- A text that is one field. -/
structure Word (cs : List Char) : Prop where
  ne_nil : cs ≠ []
  no_blank : ∀ c ∈ cs, isSpace c = false

/-- What stands at the end of a line: a slot, a range, or the mark of a slot that
    is migrating or being imported. -/
inductive SlotToken
  | single (slot : Nat)
  | range (first last : Nat)
  | moving (mark : List Char)

namespace SlotToken

def text : SlotToken → List Char
  | single slot => Nat.toDigits 10 slot
  | range first last => Nat.toDigits 10 first ++ '-' :: Nat.toDigits 10 last
  | moving mark => '[' :: mark

def Valid : SlotToken → Prop
  | single slot => slot < 16384
  | range first last => first ≤ last ∧ last < 16384
  | moving mark => ∀ c ∈ mark, isSpace c = false

/-- The slots that the token says the node owns. -/
def Owns : SlotToken → Int → Prop
  | single slot, s => s = slot
  | range first last, s => first ≤ s ∧ s ≤ last
  | moving _, _ => False

end SlotToken

/-- A node as Redis knows it. -/
structure RedisNode where
  id : List Char
  /-- `host:port@bus[,hostname]` -/
  address : List Char
  flags : List (List Char)
  master : Option (List Char)
  pingSent : Nat
  pongReceived : Nat
  configEpoch : Nat
  linkState : List Char
  slots : List SlotToken

namespace RedisNode

structure Valid (node : RedisNode) : Prop where
  id : Word node.id
  address : Word node.address
  flags : node.flags ≠ [] ∧ ∀ flag ∈ node.flags, Word flag ∧ ',' ∉ flag
  master : ∀ id ∈ node.master, Word id ∧ id ≠ ['-']
  linkState : Word node.linkState
  slots : ∀ token ∈ node.slots, token.Valid

def isSelf (node : RedisNode) : Bool := node.flags.contains "myself".toList

def Owns (node : RedisNode) (slot : Int) : Prop := ∃ token ∈ node.slots, token.Owns slot

def words (node : RedisNode) : List (List Char) :=
  node.id :: node.address :: [','].intercalate node.flags :: node.master.getD ['-'] ::
    Nat.toDigits 10 node.pingSent :: Nat.toDigits 10 node.pongReceived ::
    Nat.toDigits 10 node.configEpoch :: node.linkState :: node.slots.map SlotToken.text

end RedisNode

/-- The reply to `CLUSTER NODES`. -/
def clusterNodesText (nodes : List RedisNode) : List Char :=
  unlines (nodes.map fun node => [' '].intercalate node.words)

/-! ## Words and lines -/

section

variable {sep c : Char} {w : List Char} {ws : List (List Char)}

theorem intercalate_ne_nil (hw : w ≠ []) : [sep].intercalate (w :: ws) ≠ [] := by
  cases ws with
  | nil => simpa [List.intercalate] using hw
  | cons w' ws => simp [List.intercalate_cons_cons]

theorem mem_intercalate (h : c ∈ [sep].intercalate ws) : c = sep ∨ ∃ w ∈ ws, c ∈ w := by
  induction ws with
  | nil => simp [List.intercalate] at h
  | cons w ws ih =>
    cases ws with
    | nil => exact Or.inr ⟨w, List.mem_cons_self, by simpa [List.intercalate] using h⟩
    | cons w' ws =>
      rw [List.intercalate_cons_cons, List.mem_append, List.mem_append, List.mem_singleton] at h
      rcases h with (h | h) | h
      · exact Or.inr ⟨w, List.mem_cons_self, h⟩
      · exact Or.inl h
      · exact (ih h).imp_right fun ⟨v, hv, hc⟩ => ⟨v, List.mem_cons_of_mem _ hv, hc⟩

theorem word_toDigits (n : Nat) : Word (Nat.toDigits 10 n) where
  ne_nil := Nat.toDigits_ne_nil
  no_blank c hc := by
    have hdigit := Nat.isDigit_of_mem_toDigits (by omega) (by omega) hc
    simp only [Char.isDigit, Bool.and_eq_true, decide_eq_true_eq] at hdigit
    have hlo : 48 ≤ c.toNat := hdigit.1
    have hhi : c.toNat ≤ 57 := hdigit.2
    simp only [isSpace, Bool.or_eq_false_iff, decide_eq_false_iff_not, List.mem_cons,
      List.not_mem_nil, or_false]
    omega

/-- The fields of a line are its words. -/
theorem fields_intercalate (h : ∀ w ∈ ws, Word w) : fields ([' '].intercalate ws) = ws := by
  unfold fields
  induction ws with
  | nil => rfl
  | cons w ws ih =>
    have hw := h w List.mem_cons_self
    have hsome : (!w.isEmpty) = true := by simpa using hw.ne_nil
    cases ws with
    | nil =>
      rw [show [' '].intercalate [w] = w by simp [List.intercalate],
        List.splitOnP_eq_singleton hw.no_blank, List.filter_cons, if_pos hsome, List.filter_nil]
    | cons w' ws =>
      rw [List.intercalate_cons_cons, List.append_assoc, List.singleton_append,
        List.splitOnP_append_cons_of_forall_mem hw.no_blank ' ' rfl, List.filter_cons,
        if_pos hsome, ih fun v hv => h v (List.mem_cons_of_mem _ hv)]

theorem getLast?_intercalate (h : ∀ w ∈ ws, Word w)
    (hlast : ([' '].intercalate ws).getLast? = some c) : isSpace c = false := by
  induction ws with
  | nil => simp [List.intercalate] at hlast
  | cons w ws ih =>
    cases ws with
    | nil =>
      refine (h w List.mem_cons_self).no_blank c (List.mem_of_getLast? ?_)
      simpa [List.intercalate] using hlast
    | cons w' ws =>
      have hrest : ∀ v ∈ w' :: ws, Word v := fun v hv => h v (List.mem_cons_of_mem _ hv)
      rw [List.intercalate_cons_cons, List.getLast?_append_of_ne_nil _
        (intercalate_ne_nil (hrest w' List.mem_cons_self).ne_nil)] at hlast
      exact ih hrest hlast

theorem trimSpace_intercalate (h : ∀ w ∈ ws, Word w) :
    trimSpace ([' '].intercalate ws) = [' '].intercalate ws := by
  refine trimSpace_eq_self (fun c hc => ?_) fun c => getLast?_intercalate h
  cases ws with
  | nil => simp [List.intercalate] at hc
  | cons w ws =>
    have hw := h w List.mem_cons_self
    obtain ⟨d, ds, rfl⟩ := List.exists_cons_of_ne_nil hw.ne_nil
    have hd : d = c := by cases ws <;> simpa [List.intercalate] using hc
    exact hd ▸ hw.no_blank d List.mem_cons_self

end

/-! ## Slots -/

theorem not_mem_toDigits {c : Char} (hc : c.isDigit = false) (n : Nat) : c ∉ Nat.toDigits 10 n := by
  intro hmem
  rw [Nat.isDigit_of_mem_toDigits (by omega) (by omega) hmem] at hc
  cases hc

theorem parseInt32_toDigits {n : Nat} (hn : n < 16384) :
    parseInt32 (Nat.toDigits 10 n) = some (n : Int) := by
  have hmax : n ≤ maxInt := by
    unfold maxInt
    omega
  rw [parseInt32, atoi_toDigits hmax]
  exact if_pos ⟨by omega, by omega⟩

/-- The range of a token that is no mark. -/
def SlotToken.toRange : SlotToken → Option SlotRange
  | .single slot => some ⟨slot, slot⟩
  | .range first last => some ⟨first, last⟩
  | .moving _ => none

theorem parseSlotRange_text {token : SlotToken} (h : token.Valid) :
    parseSlotRange token.text = token.toRange := by
  have hopen : ∀ (n : Nat) (cs : List Char), ¬ ['['] <+: Nat.toDigits 10 n ++ cs := by
    intro n cs
    obtain ⟨d, ds, hd⟩ := List.exists_cons_of_ne_nil (Nat.toDigits_ne_nil (b := 10) (n := n))
    rw [hd, List.cons_append, List.cons_prefix_cons]
    rintro ⟨rfl, -⟩
    exact not_mem_toDigits rfl n (hd ▸ List.mem_cons_self)
  have hdash : ∀ n, '-' ∉ Nat.toDigits 10 n := not_mem_toDigits rfl
  cases token with
  | single slot =>
    have hno := hopen slot []
    rw [List.append_nil] at hno
    rw [SlotToken.text, parseSlotRange, if_neg hno, cut_of_not_mem (hdash slot)]
    dsimp only
    rw [parseInt32_toDigits h]
    rfl
  | range first last =>
    rw [SlotToken.text, parseSlotRange, if_neg (hopen first _), cut_append (hdash first)]
    dsimp only
    rw [parseInt32_toDigits (Nat.lt_of_le_of_lt h.1 h.2), parseInt32_toDigits h.2]
    rfl
  | moving mark => exact if_pos ⟨mark, rfl⟩

theorem parseSlotRanges_text {tokens : List SlotToken} (h : ∀ token ∈ tokens, token.Valid) :
    parseSlotRanges (tokens.map SlotToken.text) = tokens.filterMap SlotToken.toRange := by
  rw [parseSlotRanges, List.filterMap_map]
  exact List.filterMap_congr fun token htoken => parseSlotRange_text (h token htoken)

/-- The ranges contain the slots that the tokens own, and no others. -/
theorem contains_filterMap_toRange (tokens : List SlotToken) (slot : Int) :
    (∃ r ∈ tokens.filterMap SlotToken.toRange, r.Contains slot) ↔
      ∃ token ∈ tokens, token.Owns slot := by
  have htoken : ∀ token : SlotToken,
      (∃ r, token.toRange = some r ∧ r.Contains slot) ↔ token.Owns slot := by
    intro token
    cases token with
    | single n => simp [SlotToken.toRange, SlotToken.Owns, SlotRange.Contains, le_antisymm_iff,
        and_comm]
    | range first last => simp [SlotToken.toRange, SlotToken.Owns, SlotRange.Contains]
    | moving mark => simp [SlotToken.toRange, SlotToken.Owns]
  simp only [List.mem_filterMap, ← htoken]
  constructor
  · rintro ⟨r, ⟨token, hmem, hr⟩, hslot⟩
    exact ⟨token, hmem, r, hr, hslot⟩
  · rintro ⟨token, hmem, r, hr, hslot⟩
    exact ⟨r, ⟨token, hmem, hr⟩, hslot⟩

/-! ## Nodes -/

theorem SlotToken.Valid.word {token : SlotToken} (h : token.Valid) : Word token.text := by
  cases token with
  | single slot => exact word_toDigits slot
  | range first last =>
    refine ⟨by simp [SlotToken.text], fun c hc => ?_⟩
    rcases List.mem_append.mp hc with hc | hc
    · exact (word_toDigits first).no_blank c hc
    · rcases List.mem_cons.mp hc with rfl | hc
      · rfl
      · exact (word_toDigits last).no_blank c hc
  | moving mark =>
    refine ⟨by simp [SlotToken.text], fun c hc => ?_⟩
    rcases List.mem_cons.mp hc with rfl | hc
    · rfl
    · exact h c hc

theorem RedisNode.Valid.words {node : RedisNode} (h : node.Valid) : ∀ w ∈ node.words, Word w := by
  have hflags : Word ([','].intercalate node.flags) := by
    obtain ⟨first, rest, hcons⟩ := List.exists_cons_of_ne_nil h.flags.1
    constructor
    · rw [hcons]
      exact intercalate_ne_nil (h.flags.2 first (hcons ▸ List.mem_cons_self)).1.ne_nil
    · intro c hc
      rcases mem_intercalate hc with rfl | ⟨flag, hflag, hc⟩
      · rfl
      · exact (h.flags.2 flag hflag).1.no_blank c hc
  have hmaster : Word (node.master.getD ['-']) := by
    cases hm : node.master with
    | none => exact ⟨by simp, by simp; decide⟩
    | some id => exact (h.master id hm).1
  have hslots : ∀ w ∈ node.slots.map SlotToken.text, Word w :=
    List.forall_mem_map.mpr fun token htoken => (h.slots token htoken).word
  unfold RedisNode.words
  simp only [List.forall_mem_cons]
  exact ⟨h.id, h.address, hflags, hmaster, word_toDigits _, word_toDigits _, word_toDigits _,
    h.linkState, hslots⟩

variable (splitHostPort : SplitHostPort)

/-- The node that is parsed from a node's line. -/
def RedisNode.parsed (node : RedisNode) : ClusterNode where
  id := node.id
  ip := (parseClusterNodeAddress splitHostPort node.address).1
  port := (parseClusterNodeAddress splitHostPort node.address).2
  flags := node.flags
  masterID := node.master.getD ['-']
  configEpoch := (atoi (Nat.toDigits 10 node.configEpoch)).1
  linkState := node.linkState
  slotRanges := node.slots.filterMap SlotToken.toRange

theorem parseClusterNode_line {node : RedisNode} (h : node.Valid) :
    parseClusterNode splitHostPort ([' '].intercalate node.words) =
      some (node.parsed splitHostPort) := by
  have hflags : ([','].intercalate node.flags).splitOn ',' = node.flags :=
    List.splitOn_intercalate ',' (fun flag hflag => (h.flags.2 flag hflag).2) h.flags.1
  rw [parseClusterNode, trimSpace_intercalate h.words, fields_intercalate h.words, RedisNode.words]
  dsimp only
  rw [hflags, parseSlotRanges_text h.slots]
  rfl

/-- Printing the nodes and parsing the text gives the nodes. -/
theorem parseClusterNodes_text {nodes : List RedisNode} (h : ∀ node ∈ nodes, node.Valid) :
    parseClusterNodes splitHostPort (clusterNodesText nodes) =
      nodes.map (RedisNode.parsed splitHostPort) := by
  have hlines : ∀ line ∈ nodes.map (fun node => [' '].intercalate node.words), '\n' ∉ line := by
    refine List.forall_mem_map.mpr fun node hnode hmem => ?_
    rcases mem_intercalate hmem with hc | ⟨w, hw, hc⟩
    · exact absurd hc (by decide)
    · exact absurd (((h node hnode).words w hw).no_blank _ hc) (by decide)
  rw [parseClusterNodes, clusterNodesText, splitOn_unlines hlines, List.filterMap_append,
    List.filterMap_map, show [([] : List Char)].filterMap (parseClusterNode splitHostPort) =
      [] from rfl,
    List.append_nil, ← List.filterMap_eq_map]
  exact List.filterMap_congr fun node hnode => parseClusterNode_line splitHostPort (h node hnode)

theorem findSelfClusterNode_eq {nodes : List ClusterNode} {self : ClusterNode}
    (h : (nodes.filter ClusterNode.isSelf).head? = some self) : findSelfClusterNode nodes =
      (self.id, if self.masterID = ['-'] then [] else self.masterID, self.slotRanges) := by
  induction nodes with
  | nil => cases h
  | cons node nodes ih =>
    unfold findSelfClusterNode
    by_cases hself : node.isSelf = true
    · rw [List.filter_cons_of_pos hself, List.head?_cons, Option.some_inj] at h
      rw [if_pos hself, h]
    · rw [List.filter_cons_of_neg hself] at h
      rw [if_neg hself, ih h]

/-- **What Redis writes is what is read.**  If exactly one node is flagged
    `myself`, the instance manager finds its id, its master's id and its slots,
    whatever marks stand among them. -/
theorem findSelfClusterNode_text {nodes : List RedisNode} (h : ∀ node ∈ nodes, node.Valid)
    {self : RedisNode} (hself : nodes.filter RedisNode.isSelf = [self]) :
    ∃ ranges, findSelfClusterNode (parseClusterNodes splitHostPort (clusterNodesText nodes)) =
        (self.id, self.master.getD [], ranges) ∧
      ∀ slot, (∃ r ∈ ranges, r.Contains slot) ↔ self.Owns slot := by
  have hmem : self ∈ nodes := (List.mem_filter.mp (hself ▸ List.mem_singleton_self self)).1
  have hfind : ((nodes.map (RedisNode.parsed splitHostPort)).filter ClusterNode.isSelf).head? =
      some (self.parsed splitHostPort) := by
    rw [List.filter_map, show ClusterNode.isSelf ∘ RedisNode.parsed splitHostPort =
      RedisNode.isSelf from rfl, hself]
    rfl
  refine ⟨self.slots.filterMap SlotToken.toRange, ?_, contains_filterMap_toRange self.slots⟩
  rw [parseClusterNodes_text splitHostPort h, findSelfClusterNode_eq hfind]
  have hmaster : (if self.master.getD ['-'] = ['-'] then [] else self.master.getD ['-']) =
      self.master.getD [] := by
    cases hm : self.master with
    | none => rfl
    | some id => exact if_neg ((h self hmem).master id hm).2
  exact congrArg (fun master => (self.id, master, _)) hmaster

/-- A primary that hands slot 5461 to its neighbour. -/
def handingNode : RedisNode where
  id := ['e', '7']
  address := ['h', ':', '1', '@', '2']
  flags := [['m', 'y', 's', 'e', 'l', 'f'], ['m', 'a', 's', 't', 'e', 'r']]
  master := none
  pingSent := 0
  pongReceived := 7
  configEpoch := 1
  linkState := ['u', 'p']
  slots := [.range 0 5460, .single 5461, .moving ['5', '4', '6', '1', '-', '>', '-', 'd', ']']]

theorem handingNode_valid : handingNode.Valid where
  id := ⟨by simp [handingNode], by simp [handingNode, isSpace]⟩
  address := ⟨by simp [handingNode], by simp [handingNode, isSpace]⟩
  flags := ⟨by simp [handingNode], by
    simp only [handingNode, List.forall_mem_cons]
    exact ⟨⟨⟨by simp, by simp [isSpace]⟩, by simp⟩,
      ⟨⟨by simp, by simp [isSpace]⟩, by simp⟩, by simp⟩⟩
  master := by simp [handingNode]
  linkState := ⟨by simp [handingNode], by simp [handingNode, isSpace]⟩
  slots := by simp [handingNode, SlotToken.Valid, isSpace]

/-- The mark of the slot that moves does not matter. -/
theorem findSelfClusterNode_handing :
    ∃ ranges, findSelfClusterNode (parseClusterNodes (fun _ => none)
      (clusterNodesText [handingNode])) =
        (handingNode.id, [], ranges) ∧
      ∀ slot, (∃ r ∈ ranges, r.Contains slot) ↔ handingNode.Owns slot :=
  findSelfClusterNode_text (fun _ => none) (List.forall_mem_singleton.mpr handingNode_valid) rfl

end RedisOperator.Replication
