import Attest.P256
import Attest.Proofs.Primality

/-!
# The primes of P-256

The field of coordinates and the group of points both have a prime number of elements.
-/

namespace Attest.P256

/-- Certificates of the primes that divide the two numbers less one, or a factor less one of
those. -/
def factorCertificates : List PrimeCertificate :=
  [⟨2, 1, []⟩, ⟨3, 2, [2]⟩, ⟨5, 2, [2, 2]⟩, ⟨7, 3, [2, 3]⟩, ⟨11, 2, [2, 5]⟩, ⟨13, 2, [2, 2, 3]⟩,
    ⟨17, 3, [2, 2, 2, 2]⟩, ⟨19, 2, [2, 3, 3]⟩, ⟨23, 5, [2, 11]⟩, ⟨29, 2, [2, 2, 7]⟩,
    ⟨31, 3, [2, 3, 5]⟩, ⟨37, 2, [2, 2, 3, 3]⟩, ⟨41, 6, [2, 2, 2, 5]⟩, ⟨43, 3, [2, 3, 7]⟩,
    ⟨53, 2, [2, 2, 13]⟩, ⟨71, 7, [2, 5, 7]⟩, ⟨97, 5, [2, 2, 2, 2, 2, 3]⟩, ⟨107, 2, [2, 53]⟩,
    ⟨127, 3, [2, 3, 3, 7]⟩, ⟨131, 2, [2, 5, 13]⟩, ⟨151, 6, [2, 3, 5, 5]⟩, ⟨157, 5, [2, 2, 3, 13]⟩,
    ⟨173, 2, [2, 2, 43]⟩, ⟨181, 2, [2, 2, 3, 3, 5]⟩, ⟨197, 2, [2, 2, 7, 7]⟩,
    ⟨229, 6, [2, 2, 3, 19]⟩, ⟨241, 7, [2, 2, 2, 2, 3, 5]⟩, ⟨257, 3, [2, 2, 2, 2, 2, 2, 2, 2]⟩,
    ⟨263, 5, [2, 131]⟩, ⟨311, 17, [2, 5, 31]⟩, ⟨313, 10, [2, 2, 2, 3, 13]⟩,
    ⟨337, 10, [2, 2, 2, 2, 3, 7]⟩, ⟨373, 2, [2, 2, 3, 31]⟩, ⟨641, 3, [2, 2, 2, 2, 2, 2, 2, 5]⟩,
    ⟨661, 2, [2, 2, 3, 5, 11]⟩, ⟨727, 5, [2, 3, 11, 11]⟩, ⟨757, 2, [2, 2, 3, 3, 3, 7]⟩,
    ⟨919, 7, [2, 3, 3, 3, 17]⟩, ⟨1087, 3, [2, 3, 181]⟩, ⟨1201, 11, [2, 2, 2, 2, 3, 5, 5]⟩,
    ⟨1297, 10, [2, 2, 2, 2, 3, 3, 3, 3]⟩, ⟨1511, 11, [2, 5, 151]⟩, ⟨1531, 2, [2, 3, 3, 5, 17]⟩,
    ⟨2411, 6, [2, 5, 241]⟩, ⟨3023, 5, [2, 1511]⟩, ⟨3407, 5, [2, 13, 131]⟩, ⟨3677, 2, [2, 2, 919]⟩,
    ⟨3769, 7, [2, 2, 2, 3, 157]⟩, ⟨4349, 2, [2, 2, 1087]⟩, ⟨9547, 2, [2, 3, 37, 43]⟩,
    ⟨16879, 3, [2, 3, 29, 97]⟩, ⟨17449, 14, [2, 2, 2, 3, 727]⟩, ⟨18169, 11, [2, 2, 2, 3, 757]⟩,
    ⟨38189, 2, [2, 2, 9547]⟩, ⟨65537, 3, [2, 2, 2, 2, 2, 2, 2, 2, 2, 2, 2, 2, 2, 2, 2, 2]⟩,
    ⟨78283, 3, [2, 3, 3, 4349]⟩, ⟨104471, 11, [2, 5, 31, 337]⟩,
    ⟨126241, 7, [2, 2, 2, 2, 2, 3, 5, 263]⟩, ⟨155317, 5, [2, 2, 3, 7, 43, 43]⟩,
    ⟨490463, 14, [2, 7, 53, 661]⟩, ⟨704251, 2, [2, 3, 3, 5, 5, 5, 313]⟩,
    ⟨3969899, 2, [2, 19, 104471]⟩, ⟨6700417, 5, [2, 2, 2, 2, 2, 2, 2, 3, 17449]⟩,
    ⟨9350987, 2, [2, 17, 229, 1201]⟩, ⟨187019741, 2, [2, 2, 5, 9350987]⟩,
    ⟨191039911, 3, [2, 3, 5, 41, 155317]⟩, ⟨204061199, 11, [2, 11, 23, 107, 3769]⟩,
    ⟨311245691, 2, [2, 5, 7, 17, 29, 29, 311]⟩, ⟨622491383, 5, [2, 311245691]⟩,
    ⟨34282281433, 17, [2, 2, 2, 3, 7, 204061199]⟩, ⟨66417393611, 6, [2, 5, 53, 173, 197, 3677]⟩,
    ⟨1002328039319, 19, [2, 126241, 3969899]⟩, ⟨11290956913871, 13, [2, 5, 17, 66417393611]⟩,
    ⟨46076956964474543, 5, [2, 23, 18169, 78283, 704251]⟩,
    ⟨208150935158385979, 2, [2, 3, 11, 43, 127, 3023, 191039911]⟩,
    ⟨2624747550333869278416773953, 7, [2, 2, 2, 2, 2, 2, 3, 3, 1297, 16879, 208150935158385979]⟩,
    ⟨774023187263532362759620327192479577272145303, 3, [2, 3, 3, 2411, 34282281433, 11290956913871,
      46076956964474543]⟩,
    ⟨835945042244614951780389953367877943453916927241, 11, [2, 2, 2, 3, 3, 3, 5,
      774023187263532362759620327192479577272145303]⟩]

/-- Certificates of the order of the field and of the order of the generator. -/
def certificates : List PrimeCertificate :=
  factorCertificates ++
    [⟨prime, 6, [2, 3, 5, 5, 17, 257, 641, 1531, 65537, 490463, 6700417,
        835945042244614951780389953367877943453916927241]⟩,
      ⟨order, 7, [2, 2, 2, 2, 3, 71, 131, 373, 3407, 17449, 38189, 187019741, 622491383,
        1002328039319, 2624747550333869278416773953]⟩]

theorem certificates_hold : PrimeCertificate.allHold [] certificates = true := by
  decide +kernel

theorem prime_of_mem_certificates {certificate : PrimeCertificate}
    (member : certificate ∈ certificates) : certificate.number.Prime :=
  PrimeCertificate.prime_of_allHold (List.forall_mem_nil _) certificates_hold certificate member

theorem prime_prime : Nat.Prime prime :=
  prime_of_mem_certificates (List.mem_append_right _ List.mem_cons_self)

theorem prime_order : Nat.Prime order :=
  prime_of_mem_certificates
    (List.mem_append_right _ (List.mem_cons_of_mem _ List.mem_cons_self))

instance : Fact (Nat.Prime prime) := ⟨prime_prime⟩

instance : Fact (Nat.Prime order) := ⟨prime_order⟩

end Attest.P256
