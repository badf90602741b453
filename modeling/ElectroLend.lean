import ElectroLend.Properties.AccountDebt
import ElectroLend.Properties.IndexViews
import ElectroLend.Properties.CollateralBits
import ElectroLend.Properties.Rebalance
import ElectroLend.Properties.FlashLoanReturn
import ElectroLend.Properties.StableSupply
import ElectroLend.Properties.StableRate
import ElectroLend.Properties.StoredRates
import ElectroLend.Properties.Solvency
import ElectroLend.Properties.OwnerHealth
import ElectroLend.Properties.NewLoan
import ElectroLend.Properties.Gifts
import ElectroLend.Properties.BonusCover
import ElectroLend.Properties.RoundingGain
import ElectroLend.Properties.UpgradeListings
import ElectroLend.Properties.EtherRepayment
import ElectroLend.Properties.EtherWithdrawal
import ElectroLend.Properties.IndexGrowth
import ElectroLend.Properties.AccrualSafety
import ElectroLend.Properties.ListedBits
import ElectroLend.Properties.AdminRuns
import ElectroLend.Properties.RiskParameters
import ElectroLend.Properties.EmptyReserves
import ElectroLend.Properties.SupplyConservation
import ElectroLend.Properties.PriceEntryPoints
import ElectroLend.Properties.CreditDelegation
import ElectroLend.Properties.FlashLoanBooks
import ElectroLend.Properties.Commuting
import ElectroLend.Properties.FlashLoanPremium
import ElectroLend.Properties.UnderlyingUnits
import ElectroLend.Properties.StableDebtMoves
import ElectroLend.Properties.RateHistory
import ElectroLend.Properties.VariableDebtMoves
import ElectroLend.Properties.FullRepayment
import ElectroLend.Properties.LiquidationBonus
import ElectroLend.Properties.GhostBits
import ElectroLend.Properties.RateSwap
import ElectroLend.Properties.TreasuryShare
import ElectroLend.Properties.RateShape
import ElectroLend.Properties.DepositorRates
import ElectroLend.Properties.Compounding
import ElectroLend.Properties.RegistryListing
import ElectroLend.Properties.PackedRecord
import ElectroLend.Properties.UserBits
import ElectroLend.Properties.BorrowingPower
import ElectroLend.Properties.OncePerBlock
import ElectroLend.Properties.LiquidationPayouts
import ElectroLend.Properties.FixedPoint
import ElectroLend.Properties.PausedPool
import ElectroLend.Properties.FrozenReserve
import ElectroLend.Properties.UnpricedCalls
import ElectroLend.Properties.LoanedDebt
import ElectroLend.Properties.ProxyUpgrades
import ElectroLend.Properties.Roles
import ElectroLend.Properties.WrappedEther
import ElectroLend.Properties.GatewayTrust
import ElectroLend.Properties.UserViews
import ElectroLend.Properties.WalletViews
import ElectroLend.Properties.Permits
import ElectroLend.Properties.RewardReports
import ElectroLend.Properties.PriceKeepers
