import Mnser.Framework.OrderedSet
import Mnser.Yaml.Node

/-! # TcpServerConf as YAML

    `LexicalCast` between `TcpServerConf` and `std::string`.  The encoder makes
    `args` a node of its own, and the decoder asks that node for a string. -/

namespace MNSER

namespace Tcp

open YAML

/-! ## Section 1: Maps of strings -/

/-- The order of `std::map<std::string, std::string>`. -/
def keyLt (a b : Text × Text) : Bool := decide (a.1 < b.1)

/-- `std::map<std::string, std::string>` -/
structure StringMap where
  entries : List (Text × Text)
  sorted  : OrderedSet.Sorted keyLt entries
  deriving DecidableEq

namespace StringMap

def empty : StringMap := ⟨[], List.Pairwise.nil⟩

theorem keyLt_trans {a b c : Text × Text} (hab : keyLt a b = true) (hbc : keyLt b c = true) :
    keyLt a c = true :=
  decide_eq_true (List.lt_trans (of_decide_eq_true hab) (of_decide_eq_true hbc))

/-- `std::map::insert` -/
def insert (m : StringMap) (e : Text × Text) : StringMap where
  entries := OrderedSet.insert keyLt e m.entries
  sorted  := OrderedSet.sorted_insert (fun _ _ h h' => keyLt_trans h h') m.sorted

theorem eq_empty {m : StringMap} (h : m.entries = []) : m = empty := by
  obtain ⟨entries, sorted⟩ := m
  obtain rfl : entries = [] := h
  rfl

/-- The node that `LexicalCast<std::map<std::string, std::string>, std::string>`
    emits; `YAML::Load` of a value can throw. -/
def toNode (yaml : Yaml) (m : StringMap) : Option Node :=
  (m.entries.foldlM (fun node it => (yaml.Load it.2).map (set node it.1)) []).map Node.map

/-- What the loop from `node.begin()` to `node.end()` sees; the entries of a
    sequence have no `first`. -/
def items : Node → Option (List (Node × Node))
  | .map entries => some entries
  | .sequence (_ :: _) => none
  | _ => some []

/-- `LexicalCast<std::string, std::map<std::string, std::string>>` -/
def fromString (yaml : Yaml) (from_ : Text) : Option StringMap := do
  let node ← yaml.Load from_
  let entries ← items node
  return entries.foldl (fun m e => m.insert (e.1.Scalar, yaml.emit e.2)) empty

end StringMap

/-! ## Section 2: The configuration -/

structure TcpServerConf where
  address        : List Text := []
  keepalive      : Int := 0
  timeout        : Int := 1000 * 2 * 60
  ssl            : Int := 0
  id             : Text := []
  type           : Text := text "http"
  name           : Text := []
  cert_file      : Text := []
  key_file       : Text := []
  accept_worker  : Text := []
  io_worker      : Text := []
  process_worker : Text := []
  args           : StringMap := .empty
  deriving DecidableEq

namespace TcpServerConf

/-- The entries set in front of the addresses, with the node of `args`. -/
def settings (yaml : Yaml) (conf : TcpServerConf) (args : Node) : List (Node × Node) :=
  let node := set [] (text "id") (.scalar conf.id)
  let node := set node (text "type") (.scalar conf.type)
  let node := set node (text "name") (.scalar conf.name)
  let node := set node (text "keepalive") (.scalar (yaml.encodeInt conf.keepalive))
  let node := set node (text "timeout") (.scalar (yaml.encodeInt conf.timeout))
  let node := set node (text "ssl") (.scalar (yaml.encodeInt conf.ssl))
  let node := set node (text "cert_file") (.scalar conf.cert_file)
  let node := set node (text "key_file") (.scalar conf.key_file)
  let node := set node (text "accept_worker") (.scalar conf.accept_worker)
  let node := set node (text "io_worker") (.scalar conf.io_worker)
  let node := set node (text "process_worker") (.scalar conf.process_worker)
  set node (text "args") args

def toNode (yaml : Yaml) (conf : TcpServerConf) (args : Node) : Node :=
  Node.ofEntries ((conf.address.map Node.scalar).foldl
    (fun node i => push node (text "address") i) (conf.settings yaml args))

/-- `LexicalCast<TcpServerConf, std::string>`; `none` when it throws. -/
def toString (yaml : Yaml) (conf : TcpServerConf) : Option Text := do
  let args ← conf.args.toNode yaml
  let args ← yaml.Load (yaml.emit args)
  return yaml.emit (conf.toNode yaml args)

def ofNode (yaml : Yaml) (node : Node) : Option TcpServerConf := do
  let conf : TcpServerConf := {}
  let id ← subscript (some node) (text "id")
  let type ← subscript (some node) (text "type")
  let keepalive ← subscript (some node) (text "keepalive")
  let timeout ← subscript (some node) (text "timeout")
  let name ← subscript (some node) (text "name")
  let ssl ← subscript (some node) (text "ssl")
  let cert_file ← subscript (some node) (text "cert_file")
  let key_file ← subscript (some node) (text "key_file")
  let accept_worker ← (subscript (some node) (text "accept_worker")).bind (asString yaml)
  let io_worker ← (subscript (some node) (text "io_worker")).bind (asString yaml)
  let process_worker ← (subscript (some node) (text "process_worker")).bind (asString yaml)
  let args ← subscript (some node) (text "args")
  let args ← StringMap.fromString yaml (asStringOr yaml args [])
  let address ← subscript (some node) (text "address")
  let address ← (elements yaml address).mapM (asString yaml)
  return { address, id := asStringOr yaml id conf.id, type := asStringOr yaml type conf.type,
           keepalive := asIntOr yaml keepalive conf.keepalive,
           timeout := asIntOr yaml timeout conf.timeout, name := asStringOr yaml name conf.name,
           ssl := asIntOr yaml ssl conf.ssl, cert_file := asStringOr yaml cert_file conf.cert_file,
           key_file := asStringOr yaml key_file conf.key_file, accept_worker, io_worker,
           process_worker, args }

/-- `LexicalCast<std::string, TcpServerConf>`; `none` when it throws. -/
def fromString (yaml : Yaml) (v : Text) : Option TcpServerConf :=
  (yaml.Load v).bind (ofNode yaml)

end TcpServerConf

/-! ## Section 3: What is read back -/

/-- The node of a map of strings is a map, also without entries. -/
theorem StringMap.toNode_map {yaml : Yaml} {m : StringMap} {n : Node}
    (h : m.toNode yaml = some n) : ∃ entries, n = .map entries := by
  obtain ⟨entries, _, rfl⟩ := Option.map_eq_some_iff.mp h
  exact ⟨entries, rfl⟩

/-- Each key finds the value that was set for it. -/
theorem TcpServerConf.find_settings (yaml : Yaml) (conf : TcpServerConf) (args : Node) :
    find (text "id") (conf.settings yaml args) = some (.scalar conf.id) ∧
    find (text "type") (conf.settings yaml args) = some (.scalar conf.type) ∧
    find (text "keepalive") (conf.settings yaml args) = some (.scalar (yaml.encodeInt conf.keepalive)) ∧
    find (text "timeout") (conf.settings yaml args) = some (.scalar (yaml.encodeInt conf.timeout)) ∧
    find (text "name") (conf.settings yaml args) = some (.scalar conf.name) ∧
    find (text "ssl") (conf.settings yaml args) = some (.scalar (yaml.encodeInt conf.ssl)) ∧
    find (text "cert_file") (conf.settings yaml args) = some (.scalar conf.cert_file) ∧
    find (text "key_file") (conf.settings yaml args) = some (.scalar conf.key_file) ∧
    find (text "accept_worker") (conf.settings yaml args) = some (.scalar conf.accept_worker) ∧
    find (text "io_worker") (conf.settings yaml args) = some (.scalar conf.io_worker) ∧
    find (text "process_worker") (conf.settings yaml args) = some (.scalar conf.process_worker) ∧
    find (text "args") (conf.settings yaml args) = some (args) := by
  unfold settings
  refine ⟨?_, ?_, ?_, ?_, ?_, ?_, ?_, ?_, ?_, ?_, ?_, ?_⟩
  all_goals
    repeat rw [find_set_ne (by decide)]
    exact find_set_self _ _ _

theorem TcpServerConf.find_settings_address (yaml : Yaml) (conf : TcpServerConf) (args : Node) :
    find (text "address") (conf.settings yaml args) = none := by
  unfold settings
  repeat rw [find_set_ne (by decide)]
  exact find_nil _

/-- All but `args` comes back: a map is no string, and the string `args` is read
    from is then empty. -/
theorem ofNode_toNode {yaml : Yaml} {conf : TcpServerConf} (entries : List (Node × Node))
    (hint : ∀ i ∈ [conf.keepalive, conf.timeout, conf.ssl], yaml.decodeInt (yaml.encodeInt i) = some i)
    (hempty : yaml.Load [] = some .null) :
    TcpServerConf.ofNode yaml (conf.toNode yaml (.map entries)) = some { conf with args := .empty } := by
  have hother : ∀ {key : Text}, key ≠ text "address" →
      subscript (some (conf.toNode yaml (.map entries))) key =
        some (find key (conf.settings yaml (.map entries))) := by
    intro key hne
    rw [TcpServerConf.toNode, subscript_ofEntries, find_foldl_push_ne hne]
  have haddress : subscript (some (conf.toNode yaml (.map entries))) (text "address") =
      some (if conf.address.map Node.scalar = [] then none
        else some (.sequence (conf.address.map Node.scalar))) := by
    rw [TcpServerConf.toNode, subscript_ofEntries,
      find_foldl_push _ _ _ (conf.find_settings_address yaml _)]
  have hlist : (elements yaml (if conf.address.map Node.scalar = [] then none
      else some (.sequence (conf.address.map Node.scalar)))).mapM (asString yaml) =
      some conf.address := by
    split
    · rename_i hnil
      rw [List.map_eq_nil_iff.mp hnil]
      rfl
    · rw [elements_sequence, List.map_map]
      induction conf.address with
      | nil => rfl
      | cons a as ih =>
        rw [List.map_cons, List.mapM_cons, ih]
        rfl
  have hargs : StringMap.fromString yaml [] = some .empty := by
    rw [StringMap.fromString, hempty]
    rfl
  obtain ⟨hkeepalive, htimeout, hssl⟩ : yaml.decodeInt (yaml.encodeInt conf.keepalive) =
      some conf.keepalive ∧ yaml.decodeInt (yaml.encodeInt conf.timeout) = some conf.timeout ∧
      yaml.decodeInt (yaml.encodeInt conf.ssl) = some conf.ssl := by
    simpa using hint
  have hvalue : ∀ {key : Text} {v : Node}, key ≠ text "address" →
      find key (conf.settings yaml (.map entries)) = some v →
      subscript (some (conf.toNode yaml (.map entries))) key = some (some v) :=
    fun hne hfind => (hother hne).trans (congrArg some hfind)
  obtain ⟨h_id, h_type, h_keepalive, h_timeout, h_name, h_ssl, h_cert_file, h_key_file, h_accept_worker, h_io_worker, h_process_worker, h_args⟩ := conf.find_settings yaml (.map entries)
  unfold TcpServerConf.ofNode
  rw [haddress, hvalue (by decide) h_id,
    hvalue (by decide) h_type,
    hvalue (by decide) h_keepalive,
    hvalue (by decide) h_timeout,
    hvalue (by decide) h_name,
    hvalue (by decide) h_ssl,
    hvalue (by decide) h_cert_file,
    hvalue (by decide) h_key_file,
    hvalue (by decide) h_accept_worker,
    hvalue (by decide) h_io_worker,
    hvalue (by decide) h_process_worker,
    hvalue (by decide) h_args]
  simp only [Option.bind_eq_bind, Option.bind_some, asString_scalar, asStringOr_scalar, asIntOr,
    hkeepalive, htimeout, hssl, Option.getD_some, hlist]
  rw [show asStringOr yaml (some (.map entries)) [] = [] from rfl, hargs]
  rfl

/-! ## Section 4: The round trip -/

/-- yaml-cpp is inverse on the nodes built for `conf`, and an empty document is null. -/
structure Faithful (yaml : Yaml) (conf : TcpServerConf) : Prop where
  ints  : ∀ i ∈ [conf.keepalive, conf.timeout, conf.ssl],
    yaml.decodeInt (yaml.encodeInt i) = some i
  empty : yaml.Load [] = some .null
  args  : ∀ n, conf.args.toNode yaml = some n → yaml.Load (yaml.emit n) = some n
  node  : ∀ n, conf.args.toNode yaml = some n →
    yaml.Load (yaml.emit (conf.toNode yaml n)) = some (conf.toNode yaml n)

def RoundTrips (yaml : Yaml) (conf : TcpServerConf) : Prop :=
  ∃ s, conf.toString yaml = some s ∧ TcpServerConf.fromString yaml s = some conf

theorem toString_eq {yaml : Yaml} {conf : TcpServerConf} (h : Faithful yaml conf)
    {entries : List (Node × Node)} (hargs : conf.args.toNode yaml = some (.map entries)) :
    conf.toString yaml = some (yaml.emit (conf.toNode yaml (.map entries))) := by
  rw [TcpServerConf.toString, hargs, Option.bind_eq_bind, Option.bind_some, h.args _ hargs]
  rfl

theorem fromString_toString {yaml : Yaml} {conf : TcpServerConf} (h : Faithful yaml conf) {s : Text}
    (hs : conf.toString yaml = some s) :
    TcpServerConf.fromString yaml s = some { conf with args := .empty } := by
  cases hargs : conf.args.toNode yaml with
  | none =>
    rw [TcpServerConf.toString, hargs] at hs
    cases hs
  | some n =>
    obtain ⟨entries, rfl⟩ := StringMap.toNode_map hargs
    obtain rfl := Option.some.inj (hs.symm.trans (toString_eq h hargs))
    rw [TcpServerConf.fromString, h.node _ hargs, Option.bind_some]
    exact ofNode_toNode entries h.ints h.empty

/-- A configuration comes back exactly if it has no args. -/
theorem tcp_server_conf_round_trip_iff {yaml : Yaml} {conf : TcpServerConf}
    (h : Faithful yaml conf) : RoundTrips yaml conf ↔ conf.args.entries = [] := by
  constructor
  · rintro ⟨s, hs, hback⟩
    have heq := Option.some.inj ((fromString_toString h hs).symm.trans hback)
    rw [← heq]
    rfl
  · intro hnil
    have hempty := StringMap.eq_empty hnil
    have hargs : conf.args.toNode yaml = some (.map []) := by
      rw [hempty]
      rfl
    refine ⟨_, toString_eq h hargs, ?_⟩
    rw [fromString_toString h (toString_eq h hargs), ← hempty]

/-- yaml-cpp on one configuration and its `args`; other documents are plain texts. -/
def oneConf (conf args : Text) (confNode argsNode : Node) : Yaml where
  emit n      := if (subscript (some n) (text "id")).join.isSome then conf else args
  Load t      :=
    if t = [] then some .null
    else if t = args then some argsNode
    else if t = conf then some confNode
    else some (.scalar t)
  encodeInt i := if i = 0 then text "0" else text "120000"
  decodeInt t := if t = text "0" then some 0 else some 120000
  nullText    := none

theorem emit_oneConf (doc args : Text) (confNode argsNode n : Node) (conf : TcpServerConf) :
    (oneConf doc args confNode argsNode).emit
      (conf.toNode (oneConf doc args confNode argsNode) n) = doc := by
  refine if_pos ?_
  rw [TcpServerConf.toNode, subscript_ofEntries, find_foldl_push_ne (by decide),
    (conf.find_settings _ _).1]
  rfl

theorem faithful_oneConf {conf : TcpServerConf} {doc args : Text} {entries : List (Node × Node)}
    {confNode : Node} (hnode : conf.toNode (oneConf [] [] .null .null) (.map entries) = confNode)
    (hdoc : doc ≠ [] ∧ doc ≠ args) (hargs : args ≠ []) (hid : find (text "id") entries = none)
    (hints : ∀ i ∈ [conf.keepalive, conf.timeout, conf.ssl], i = 0 ∨ i = 120000)
    (hmap : conf.args.toNode (oneConf doc args confNode (.map entries)) = some (.map entries)) :
    Faithful (oneConf doc args confNode (.map entries)) conf where
  ints i hi := by
    have hpair : ∀ i, i = 0 ∨ i = 120000 →
        (oneConf [] [] .null .null).decodeInt ((oneConf [] [] .null .null).encodeInt i) = some i := by
      rintro i (rfl | rfl) <;> decide
    exact hpair i (hints i hi)
  empty := by simp [oneConf]
  args n hn := by
    obtain rfl := Option.some.inj (hmap.symm.trans hn)
    have hemit : (oneConf doc args confNode (.map entries)).emit (.map entries) = args := by
      refine if_neg ?_
      rw [subscript, hid]
      exact Bool.false_ne_true
    rw [hemit]
    exact (if_neg hargs).trans (if_pos rfl)
  node n hn := by
    obtain rfl := Option.some.inj (hmap.symm.trans hn)
    rw [emit_oneConf, show conf.toNode (oneConf doc args confNode (.map entries)) (.map entries) =
      confNode from hnode]
    exact (if_neg hdoc.1).trans ((if_neg hdoc.2).trans (if_pos rfl))

/-- What is emitted for a server `a` with these `args` and addresses. -/
def document (args address : String) : Text :=
  text "id: a\ntype: http\nname: \"\"\nkeepalive: 0\ntimeout: 120000\nssl: 0\n" ++
    text "cert_file: \"\"\nkey_file: \"\"\naccept_worker: \"\"\nio_worker: \"\"\n" ++
    text "process_worker: \"\"\nargs: " ++ text args ++ text address

theorem document_ne (args address : String) {t : Text} (ht : t.head? ≠ some 105) :
    document args address ≠ t := by
  rintro rfl
  exact ht rfl

/-- A server with two addresses. -/
theorem tcp_server_conf_round_trip_iff_addresses :
    let conf : TcpServerConf := { address := [text "0.0.0.0:80", text "[::]:80"], id := text "a" }
    let doc := document "\x7b\x7d" "\naddress:\n  - 0.0.0.0:80\n  - \"[::]:80\""
    RoundTrips (oneConf doc (text "\x7b\x7d")
      (conf.toNode (oneConf [] [] .null .null) (.map [])) (.map [])) conf :=
  (tcp_server_conf_round_trip_iff (faithful_oneConf rfl
    ⟨document_ne _ _ (by decide), document_ne _ _ (by decide)⟩ (by decide) rfl (by decide) rfl)).mpr rfl

/-- The only entry of `args` is lost. -/
theorem tcp_server_conf_args_lost :
    let conf : TcpServerConf :=
      { id := text "a", args := ⟨[(text "k", text "v")], List.pairwise_singleton _ _⟩ }
    let doc := document "\n  k: v" ""
    let args := [(Node.scalar (text "k"), Node.scalar (text "v"))]
    let yaml := oneConf doc (text "k: v") (conf.toNode (oneConf [] [] .null .null) (.map args))
      (.map args)
    Faithful yaml conf ∧ conf.toString yaml = some doc ∧
      TcpServerConf.fromString yaml doc = some { conf with args := .empty } ∧
      ¬ RoundTrips yaml conf := by
  intro conf doc args yaml
  have hfaithful : Faithful yaml conf := faithful_oneConf rfl
    ⟨document_ne _ _ (by decide), document_ne _ _ (by decide)⟩ (by decide) rfl (by decide) rfl
  have hdoc : conf.toString yaml = some doc :=
    (toString_eq hfaithful rfl).trans (congrArg some (emit_oneConf _ _ _ _ _ conf))
  refine ⟨hfaithful, hdoc, fromString_toString hfaithful hdoc, ?_⟩
  rintro ⟨s, hs, hback⟩
  have heq := (fromString_toString hfaithful hs).symm.trans hback
  have hargs := congrArg (fun c => c.map fun c => c.args.entries) heq
  exact absurd hargs (by decide)

end Tcp

end MNSER
