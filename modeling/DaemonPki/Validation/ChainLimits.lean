import DaemonPki.Ca.Authority
import DaemonPki.Validation.Chain

/-!
# What the chain validator does not ask for

Two requirements on the three inputs of the chain validator
(`daemon-pki-core/src/validation/chain.rs`) that none of its checks makes. Of the basic
constraints of a CA certificate it reads the CA flag and not the path length, which the
intermediate authority of this repository carries; and of what the parser returns for an input it
drops the bytes that come after the certificate. The root alone is compared byte by byte.

## Main definitions

* `DaemonPki.RespectsPathLengths`: the path length limits along a path of CA certificates.
* `DaemonPki.ChainValidator.Qualifies`: everything the validator asks for.
* `DaemonPki.X509Parser.PassesRest`: what the parser does with bytes after a certificate.

## Main results

* `DaemonPki.ChainValidator.pathLengthsRespected_iff`: when acceptance implies the limits.
* `DaemonPki.ChainValidator.exactEncodings_iff`: when acceptance implies that nothing follows the
  certificates.
-/

namespace DaemonPki

open Foundation

/-! ### Path lengths -/

/-- The number of CA certificates that may follow, if it is limited. -/
def BasicConstraints.pathLength : BasicConstraints → Option ℕ
  | .unconstrained => none
  | .constrained pathLength => some pathLength

section PathLengths

variable {Cert : Type} {basicConstraints : Cert → Option BasicConstraints}

/-- Along a path of CA certificates, from the root down, every certificate with a path length is
followed by at most as many. -/
def RespectsPathLengths (basicConstraints : Cert → Option BasicConstraints) : List Cert → Prop
  | [] => True
  | ca :: path =>
    (∀ constraints ∈ basicConstraints ca, ∀ limit ∈ constraints.pathLength, path.length ≤ limit) ∧
      RespectsPathLengths basicConstraints path

/-- The certificate may only issue leaves. -/
def LeavesOnly (basicConstraints : Cert → Option BasicConstraints) (ca : Cert) : Prop :=
  basicConstraints ca = some (.constrained 0)

/-- Of a root and one intermediate authority, only the root can break its limit. -/
theorem respectsPathLengths_pair_iff {root intermediate : Cert} :
    RespectsPathLengths basicConstraints [root, intermediate] ↔
      ¬LeavesOnly basicConstraints root := by
  have hlast : RespectsPathLengths basicConstraints [intermediate] :=
    ⟨fun _ _ _ _ => Nat.zero_le _, trivial⟩
  rw [RespectsPathLengths, and_iff_left hlast, LeavesOnly]
  constructor
  · intro h hroot
    exact Nat.not_succ_le_zero 0 (h _ hroot 0 rfl)
  · intro h constraints hconstraints limit hlimit
    cases constraints with
    | unconstrained => cases hlimit
    | constrained pathLength =>
      cases hlimit
      refine Nat.pos_of_ne_zero fun hzero => h ?_
      rw [Option.mem_def.mp hconstraints, hzero]

end PathLengths

/-- The parser reads the certificate that bytes begin with, whatever comes after, and returns what
comes after. -/
def X509Parser.PassesRest {Cert Name Key : Type} (x509 : X509Parser Cert Name Key) : Prop :=
  ∀ der rest certificate junk, x509.parse der = some (rest, certificate) →
    x509.parse (der ++ junk) = some (rest ++ junk, certificate)

namespace ChainValidator

variable {Cert Name Key : Type} [DecidableEq Name] {x509 : X509Parser Cert Name Key}
  {now : OffsetDateTime} {leafDer intermediateDer rootDer : List UInt8} {trustStore : TrustStore}

/-! ### Everything the validator asks for -/

/-- The three inputs and the trust store are as the validator asks for. -/
structure Qualifies (x509 : X509Parser Cert Name Key) (now : OffsetDateTime)
    (leafDer intermediateDer rootDer : List UInt8) (trustStore : TrustStore) : Prop where
  nonempty : leafDer ≠ [] ∧ intermediateDer ≠ [] ∧ rootDer ≠ []
  acceptable : ∃ leaf intermediate root, Parses x509 leafDer leaf ∧
    Parses x509 intermediateDer intermediate ∧ Parses x509 rootDer root ∧
    Acceptable x509 now leaf intermediate root
  trusted : ∃ anchor ∈ trustStore.anchors, anchor.enabled = true ∧ anchor.certificateDer = rootDer

theorem accepts_iff_qualifies : Accepts x509 now leafDer intermediateDer rootDer trustStore ↔
    Qualifies x509 now leafDer intermediateDer rootDer trustStore := by
  rw [accepts_iff]
  exact ⟨fun ⟨hnonempty, hchain, hanchor⟩ => ⟨hnonempty, hchain, hanchor⟩,
    fun h => ⟨h.nonempty, h.acceptable, h.trusted⟩⟩

/-! ### Path lengths of accepted chains -/

variable {basicConstraints : Cert → Option BasicConstraints}

/-- If the chain is accepted, the limits of its two CA certificates are respected. -/
def PathLengthsRespected (x509 : X509Parser Cert Name Key)
    (basicConstraints : Cert → Option BasicConstraints) (now : OffsetDateTime)
    (leafDer intermediateDer rootDer : List UInt8) (trustStore : TrustStore) : Prop :=
  Accepts x509 now leafDer intermediateDer rootDer trustStore →
    ∀ root intermediate, Parses x509 rootDer root → Parses x509 intermediateDer intermediate →
      RespectsPathLengths basicConstraints [root, intermediate]

/-- **When accepted chains obey the path length limits**: for a chain that has everything the
validator asks for, exactly when its root is not limited to issuing leaves. -/
theorem pathLengthsRespected_iff :
    PathLengthsRespected x509 basicConstraints now leafDer intermediateDer rootDer trustStore ↔
      (Qualifies x509 now leafDer intermediateDer rootDer trustStore →
        ∀ root, Parses x509 rootDer root → ¬LeavesOnly basicConstraints root) := by
  rw [PathLengthsRespected, accepts_iff_qualifies]
  refine forall_congr' fun hqualifies => forall_congr' fun root => ?_
  obtain ⟨-, intermediate, -, -, hintermediate, -⟩ := hqualifies.acceptable
  constructor
  · intro h hroot
    exact respectsPathLengths_pair_iff.mp (h intermediate hroot hintermediate)
  · intro h intermediate' hroot _
    exact respectsPathLengths_pair_iff.mpr (h hroot)

/-- A root that may only issue leaves, and a chain through an intermediate authority below it. -/
theorem not_pathLengthsRespected :
    ¬PathLengthsRespected byteParser
      (fun byte => if byte = 1 then none else some (.constrained 0)) 5 [1] [2] [3]
      ⟨[.new 8 "root" [3]]⟩ := by
  intro h
  have haccepts : Accepts byteParser 5 [1] [2] [3] ⟨[.new 8 "root" [3]]⟩ := ⟨_, rfl⟩
  have hrespects := h haccepts 3 2 ⟨_, rfl⟩ ⟨_, rfl⟩
  exact Nat.not_succ_le_zero 0 (hrespects.1 (.constrained 0) rfl 0 rfl)

/-! ### Bytes after a certificate -/

omit [DecidableEq Name] in
theorem Parses.append (hparse : x509.PassesRest) {der : List UInt8} {certificate : Cert}
    (h : Parses x509 der certificate) (junk : List UInt8) :
    Parses x509 (der ++ junk) certificate := by
  obtain ⟨rest, hrest⟩ := h
  exact ⟨rest ++ junk, hparse der rest certificate junk hrest⟩

/-- The bytes are the encoding of one certificate, with nothing after it. -/
def IsEncoding (x509 : X509Parser Cert Name Key) (der : List UInt8) : Prop :=
  ∃ certificate, x509.parse der = some ([], certificate)

omit [DecidableEq Name] in
theorem not_isEncoding_append (hparse : x509.PassesRest) {der junk : List UInt8}
    {certificate : Cert} (h : Parses x509 der certificate) (hjunk : junk ≠ []) :
    ¬IsEncoding x509 (der ++ junk) := by
  rintro ⟨certificate', hexact⟩
  obtain ⟨rest, hrest⟩ := h
  rw [hparse der rest certificate junk hrest] at hexact
  exact hjunk (List.append_eq_nil_iff.mp (Prod.mk.inj (Option.some.inj hexact)).1).2

/-- If the chain is accepted, its leaf and its intermediate are single encodings. -/
def ExactEncodings (x509 : X509Parser Cert Name Key) (now : OffsetDateTime)
    (leafDer intermediateDer rootDer : List UInt8) (trustStore : TrustStore) : Prop :=
  Accepts x509 now leafDer intermediateDer rootDer trustStore →
    IsEncoding x509 leafDer ∧ IsEncoding x509 intermediateDer

/-- Bytes after the leaf and after the intermediate do not change the result of a chain that is
accepted. -/
theorem validateDerChain_append (hparse : x509.PassesRest) {result : ValidationResult}
    (h : validateDerChain x509 now leafDer intermediateDer rootDer trustStore = .ok result)
    (junk junk' : List UInt8) :
    validateDerChain x509 now (leafDer ++ junk) (intermediateDer ++ junk') rootDer trustStore =
      .ok result := by
  obtain ⟨⟨hleaf, hintermediate, hroot⟩, ⟨leaf, intermediate, root, hleafParses,
    hintermediateParses, hrootParses, hacceptable⟩, hanchor⟩ := validateDerChain_eq_ok_iff.mp h
  refine validateDerChain_eq_ok_iff.mpr ⟨⟨?_, ?_, hroot⟩, ⟨leaf, intermediate, root, ?_, ?_,
    hrootParses, hacceptable⟩, hanchor⟩
  · exact List.append_ne_nil_of_left_ne_nil hleaf junk
  · exact List.append_ne_nil_of_left_ne_nil hintermediate junk'
  · exact hleafParses.append hparse junk
  · exact hintermediateParses.append hparse junk'

/-- **When acceptance means that nothing follows the certificates.** Bytes appended to the leaf or
to the intermediate of an accepted chain never lead to its rejection. So of one input acceptance
means it exactly when nothing does follow, or the chain lacks something that the validator asks
for. -/
theorem exactEncodings_iff (hparse : x509.PassesRest) :
    (Accepts x509 now leafDer intermediateDer rootDer trustStore → ∀ junk, junk ≠ [] →
        (Accepts x509 now (leafDer ++ junk) intermediateDer rootDer trustStore ∧
            ¬IsEncoding x509 (leafDer ++ junk)) ∧
          Accepts x509 now leafDer (intermediateDer ++ junk) rootDer trustStore ∧
            ¬IsEncoding x509 (intermediateDer ++ junk)) ∧
      (ExactEncodings x509 now leafDer intermediateDer rootDer trustStore ↔
        (IsEncoding x509 leafDer ∧ IsEncoding x509 intermediateDer) ∨
          ¬Qualifies x509 now leafDer intermediateDer rootDer trustStore) := by
  refine ⟨?_, ?_⟩
  · rintro ⟨result, hresult⟩ junk hjunk
    obtain ⟨-, ⟨leaf, intermediate, -, hleaf, hintermediate, -⟩, -⟩ :=
      validateDerChain_eq_ok_iff.mp hresult
    have hleafJunk := validateDerChain_append hparse hresult junk []
    have hintermediateJunk := validateDerChain_append hparse hresult [] junk
    rw [List.append_nil] at hleafJunk hintermediateJunk
    exact ⟨⟨⟨result, hleafJunk⟩, not_isEncoding_append hparse hleaf hjunk⟩,
      ⟨result, hintermediateJunk⟩, not_isEncoding_append hparse hintermediate hjunk⟩
  · rw [ExactEncodings, accepts_iff_qualifies, or_comm, imp_iff_not_or]

theorem byteParser_passesRest : byteParser.PassesRest := by
  intro der rest certificate junk h
  cases der with
  | nil => cases h
  | cons byte der =>
    cases h
    rfl

/-- A chain without anything after its certificates. -/
theorem exactEncodings_iff_byteParser :
    ExactEncodings byteParser 5 [1] [2] [3] ⟨[.new 8 "root" [3]]⟩ :=
  (exactEncodings_iff byteParser_passesRest).2.mpr (Or.inl ⟨⟨1, rfl⟩, 2, rfl⟩)

/-- The chain is accepted with a byte after its leaf. -/
theorem not_exactEncodings :
    ¬ExactEncodings byteParser 5 [1, 0] [2] [3] ⟨[.new 8 "root" [3]]⟩ := by
  intro h
  obtain ⟨⟨certificate, hexact⟩, -⟩ := h ⟨_, rfl⟩
  cases hexact

end ChainValidator

end DaemonPki
