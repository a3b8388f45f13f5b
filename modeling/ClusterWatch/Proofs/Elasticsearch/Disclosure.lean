import ClusterWatch.Elasticsearch.Client
import ClusterWatch.Proofs.Text.Quoted

/-!
# What a client gives away when it is shown

A client is shown with its endpoint, the name of its user and the number of its certificates.  That
and no more can be told from the text: neither the password, nor what the certificates are, nor
the timeout, changes it, and nothing that is put into an endpoint or a name looks like another
client.
-/

namespace ClusterWatch.Elasticsearch

open ClusterWatch.Text (decimal quoteChars quoteChars_append_inj toDigits_inj toList_quote)

namespace Connection

variable {user user' : Option Credentials} {s t : List Char}

theorem toList_describeUser_some (user : Credentials) :
    (describeUser (some user)).toList =
      "Some(BasicAuth \x7b name: ".toList ++ (quoteChars user.name.toList ++
        (", password: ".toList ++ (quoteChars "<redacted>".toList ++ " \x7d)".toList))) := by
  unfold describeUser
  simp only [String.toList_append]
  simp only [toList_quote, List.append_assoc]

/-- Whether there is a user and what its name is are known from what is shown with anything after
it. -/
theorem describeUser_append_inj :
    (describeUser user).toList ++ s = (describeUser user').toList ++ t ↔
      user.map Credentials.name = user'.map Credentials.name ∧ s = t := by
  have apart : ∀ {user : Credentials} {s t : List Char},
      "None".toList ++ s ≠ (describeUser (some user)).toList ++ t := by
    intro user s t same
    rw [toList_describeUser_some] at same
    cases (List.cons.inj same).1
  match user, user' with
  | none, none => rw [List.append_cancel_left_eq, Option.map_none, eq_self, true_and]
  | none, some user' =>
      refine ⟨fun same => absurd same apart, fun ⟨names, _⟩ => ?_⟩
      cases names
  | some user, none =>
      refine ⟨fun same => absurd same.symm apart, fun ⟨names, _⟩ => ?_⟩
      cases names
  | some user, some user' =>
      simp only [toList_describeUser_some, List.append_assoc, List.append_cancel_left_eq,
        quoteChars_append_inj, String.toList_inj, Option.map_some, Option.some.injEq]

theorem toList_describe (c : Connection) :
    c.describe.toList =
      "EsClient \x7b endpoint: ".toList ++
        (quoteChars c.endpoint.toList ++
          (", user: ".toList ++ ((describeUser c.user).toList ++ (", ca_certs: ".toList ++
            (Nat.toDigits 10 c.ca.length ++ ", .. \x7d".toList))))) := by
  unfold describe decimal
  simp only [String.toList_append]
  simp only [toList_quote, String.toList_ofList, List.append_assoc]

/-- Connections are shown alike exactly if they have the same endpoint, users of the same name and
as many certificates. -/
theorem describe_inj {a b : Connection} :
    a.describe = b.describe ↔
      a.endpoint = b.endpoint ∧ a.user.map Credentials.name = b.user.map Credentials.name ∧
        a.ca.length = b.ca.length := by
  have numbers : Nat.toDigits 10 a.ca.length = Nat.toDigits 10 b.ca.length ↔
      a.ca.length = b.ca.length :=
    ⟨toDigits_inj (by decide) (by decide), congrArg _⟩
  rw [← String.toList_inj, toList_describe, toList_describe, List.append_cancel_left_eq,
    quoteChars_append_inj, List.append_cancel_left_eq, describeUser_append_inj,
    List.append_cancel_left_eq, List.append_cancel_right_eq, numbers, String.toList_inj]

end Connection

namespace Client

variable {endpoint endpoint' : String} {user user' : Option Credentials} {ca ca' : List String}
  {timeout timeout' : Duration} {a b : Client}

/-- A client has what it is built from, but for the slashes at the end of its endpoint. -/
theorem connection_of_build (built : build? endpoint user ca timeout = .ok a) :
    a.connection = ⟨trimSlashes endpoint, user, ca⟩ := by
  unfold build? at built
  split at built
  · cases built
    rfl
  · cases built

/-- Clients are shown alike exactly if their endpoints are the same but for slashes at their ends,
both have no user or both a user of the same name, and they have as many certificates. -/
theorem describe_eq_iff (built : build? endpoint user ca timeout = .ok a)
    (built' : build? endpoint' user' ca' timeout' = .ok b) :
    a.connection.describe = b.connection.describe ↔
      trimSlashes endpoint = trimSlashes endpoint' ∧
        user.map Credentials.name = user'.map Credentials.name ∧ ca.length = ca'.length := by
  rw [Connection.describe_inj, connection_of_build built, connection_of_build built']

/-- Passwords, what certificates are and timeouts make no difference, and a name that continues like
the text of a client is not mistaken for it. -/
theorem describe_eq_iff_disguised :
    ∃ a b c : Client,
      build? "https://es:9200/" (some ⟨"u", "one"⟩) ["A"] (.ofSeconds 1) = .ok a ∧
      build? "https://es:9200" (some ⟨"u", "two"⟩) ["B"] (.ofSeconds 2) = .ok b ∧
      build? "https://es:9200" (some ⟨"u\", password: \"<redacted>", "one"⟩) ["A"] (.ofSeconds 1) =
        .ok c ∧
      a.connection.describe = b.connection.describe ∧
      a.connection.describe ≠ c.connection.describe := by
  have first : build? "https://es:9200/" (some ⟨"u", "one"⟩) ["A"] (.ofSeconds 1) = .ok _ :=
    if_pos (by decide +kernel)
  have second : build? "https://es:9200" (some ⟨"u", "two"⟩) ["B"] (.ofSeconds 2) = .ok _ :=
    if_pos (by decide +kernel)
  have third : build? "https://es:9200" (some ⟨"u\", password: \"<redacted>", "one"⟩) ["A"]
      (.ofSeconds 1) = .ok _ :=
    if_pos (by decide +kernel)
  refine ⟨_, _, _, first, second, third, ?_, fun same => ?_⟩
  · exact (describe_eq_iff first second).mpr ⟨by decide, rfl, rfl⟩
  · exact absurd ((describe_eq_iff first third).mp same).2.1 (by decide)

end Client

end ClusterWatch.Elasticsearch
