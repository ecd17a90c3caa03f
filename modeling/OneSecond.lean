import OneSecond.Currency
import OneSecond.Rounds
import OneSecond.Stocks
import OneSecond.Scores
import OneSecond.Shields
import OneSecond.Decimal
import OneSecond.Stopwatch
import OneSecond.Freeze
import OneSecond.Laps
import OneSecond.Endings
import OneSecond.Shopping
import OneSecond.Catalogue
import OneSecond.Cells
import OneSecond.Playing
import OneSecond.Confetti
import OneSecond.ShopVisits
import OneSecond.Kingfisher.Settling
import OneSecond.Kingfisher.Answers
import OneSecond.Kingfisher.ImageCache
import OneSecond.Kingfisher.CacheCleaning
import OneSecond.ShopDownloads
