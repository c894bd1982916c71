/-
# Known kinds of resources

A catalog gives for each kind of resource its provider type and the version
of the provider's interface. Resources of a known kind are declared by kind
and name.

Key definitions: `Kind`, `Catalog`, `Catalog.insert`, `Catalog.lookup`,
`Catalog.azure`.
-/
import ResourceTemplate.Entries
import ResourceTemplate.Error

namespace ResourceTemplate

/-- What a catalog knows of a kind. -/
structure Kind where
  providerType : String
  apiVersion : String
  deriving DecidableEq, Repr

/-- The known kinds by their names. -/
structure Catalog where
  kinds : Entries Kind := []
  deriving DecidableEq, Repr

namespace Catalog

def empty : Catalog := {}

/-- The catalog with a kind added or replaced. -/
def insert (c : Catalog) (kind : String) (known : Kind) : Catalog :=
  { kinds := c.kinds.insert kind known }

/-- What the catalog knows of a kind. -/
def lookup (c : Catalog) (kind : String) : Except Error Kind :=
  match c.kinds.get? kind with
  | some known => .ok known
  | none => .error (.unknownKind kind)

/-- The kinds of Azure Resource Manager. -/
def azure : Catalog where
  kinds := [
    ("availability_sets", ⟨"Microsoft.Compute/availabilitySets", "2015-06-15"⟩),
    ("deployments", ⟨"Microsoft.Resources/deployments", "2015-01-01"⟩),
    ("load_balancers", ⟨"Microsoft.Network/loadBalancers", "2015-06-15"⟩),
    ("network_interfaces", ⟨"Microsoft.Network/networkInterfaces", "2015-06-15"⟩),
    ("network_security_groups", ⟨"Microsoft.Network/networkSecurityGroups", "2015-06-15"⟩),
    ("public_ip_addresses", ⟨"Microsoft.Network/publicIPAddresses", "2015-06-15"⟩),
    ("storage_accounts", ⟨"Microsoft.Storage/storageAccounts", "2015-06-15"⟩),
    ("virtual_machines", ⟨"Microsoft.Compute/virtualMachines", "2015-06-15"⟩),
    ("virtual_networks", ⟨"Microsoft.Network/virtualNetworks", "2015-06-15"⟩)]

end Catalog
end ResourceTemplate
