/-!
# Names of characters in Unicode 14

The table is a text of entries in the order of the code points. An entry `=N` says that the next
name is that of the code point `N`, in hexadecimal digits; otherwise code points follow each other.
Every other entry is a name: a letter says how many words it shares with the name before it, from
`a` for none, and the other words are separated by low lines. Two small letters are the place of a
word in the list of common words, and an asterisk stands for the code point itself. Aliases come
last. Ideographs and syllables that have their names by rule are left out.
-/

namespace CodeAudit.Text

def commonWordTable : String :=
  "IDEOGRAPH-* CHARACTER-* LETTER WITH CAPITAL SMALL ARROW FORM ISOLATED RIGHTWARDS RIGHT ABOVE
    SIGN DOUBLE LEFTWARDS VERTICAL TRIANGLE-HEADED INITIAL BELOW FINAL HORIZONTAL STROKE SYMBOL
    LEFT THREE BLACK DOWNWARDS HUNDRED THOUSAND MIDDLE WHITE BRACKET CIRCUMFLEX WEST-CREE TRIANGLE
    GREATER-THAN AND MARK DIAERESIS HEAVY ARROWHEAD SQUARE CIRCLE UPWARDS REVERSED EIGHT TIMES FOUR
    LESS-THAN SEVEN HOOK YPOGEGRAMMENI FIVE PERISPOMENI INVERTED POINTING PUNCTUATION PARENTHESIS
    MEDIUM MEDIAL PROSGEGRAMMENI TURNED INDEX MAKSURA EQUAL TWO LIGHT VOWEL ORNAMENT ROTATED TILDE
    DIGIT ONE ANUSVARA LOWER MEEM SINGLE VOCALIC RETROFLEX PLUS DOT RIGHT-POINTING ACUTE DESCENDER
    HARPOON CANDRABINDU DOWN HALF ASTERISK COMBINING CIRCLED DIAGONAL NINE DEGREES OPERATOR MACRON
    NUMBER UPPER FACE THUMB DOTS DASIA EXCLAMATION OVER PSILI CENTRE LEFT-POINTING LITTLE SEPARATOR
    ALEF EQUILATERAL LARGE GRAVE QUOTATION MOVEMENT-FLOORPLANE RING DIAMOND ANTICLOCKWISE LIGATURE
    HAND-FIST BARB MOVEMENT-WALLPLANE CROSSING VARIA SANS-SERIF TRIPLE COMMA ABBREVIATION BLOCK
    MODIFIER VISARGA ZERO TRIANGULAR POINTED SQUARED QUESTION INTERSECTION SEVENTY BREVE OPEN JEEM
    QUARTER LONG TWENTY VIRAMA ALTERNATING TONE ALTERNATE CONSONANT ANGLE LATIN ACCENT SHORT
    HITTING HIGH HAND-CIRCLE SIX DOTTED NINETY C-SIMPLIFIED LINE UNDERBAR STOP BAR CEDILLA PALATAL
    HAND-HINGE NORTH STRAIGHT SUPERSET CLOSED DIGRAPH EQUALS GLOTTAL UPSILON YENISEI CROSS CARON
    IDEOGRAPHIC DOWN-POINTING MULTIPLICATION EPSILON SOUTH BOTTOM CORNER CONJOINED EAST UP-POINTING
    OXIA DOUBLE-STRUCK EQUIVALENT FINGERS SECTION SOLIDUS STAR YEH SUPERSCRIPT ORKHON OVERLAY
    ARCHAION FRACTION INTEGRAL OMEGA CHARACTER KNIGHT NEUTRAL REVERSE SLANTED TAIL VARIANT EIGHTH
    HAMZA KHAH TORTOISE WEST GUNU FULL RAISED SUBSET SYLLABLE ARABIC-INDIC COPTIC SCRIPT ALPHA
    CRYPTOGRAMMIC FIFTY DIALYTIKA AVAGRAHA CHESS COLON HAND-ANGLE IOTIFIED LOW NEGATIVE TABULATION
    ARCHAIC DAGESH CLOCKWISE HAH TEARDROP-SPOKED CROSSED-TAIL DANDA FORWARD INSULAR MAHAAPRAANA
    OMICRON QUADRANT QUARTERS SIMALUNGUN THIRTY TWO-HEADED HEART BETWEEN ROTATION-FLOORPLANE
    SMILING CYRILLIC DASH DIAMONDS SEMICOLON TELEPHONE TENU TTHA TEN ALPAPRAANA DDHA
    ROTATION-WALLPLANE CURLY MULTIPLE NOON PRECEDES SHADOWED SIGMA SUCCEEDS QUADRUPLE ARABIC INSIDE
    EIGHTHS GREEK KATAKANA-HIRAGANA NGA NUKTA OBLIQUE THETA SHA APOSTROPHE CHARACTERS INDEPENDENT
    LENTICULAR NOTEHEAD SHELL SPOKED DOTLESS ITERATION LEFT-STEM THROUGH HEARTS HORN TACK CHA GAMMA
    KATAKANA NYA SHAFT SPACE CIRCLES CROSSED KHA LOGICAL LOZENGE MUSICAL OVERBAR PRODUCT ALMOST
    ARROWS COMPRESSED HINGED PERSON SAMEKH KLYUCHEVAYA MOUTH FROM HAND IOTA THA BENT CANDRA DELTA
    DIFFERENTIAL EIGHTY KRYZHEM LAMEDH LENGTH MATHEMATICAL NEPOSTOYANNAYA NOT OGONEK POVYSHE SHIN
    SUBSTITUTION TWELFTHS BOLD SHEEN TONOS ABKHASIAN AMPERSAND BULLET CONTAINING CRESCENTS
    DIALECT-P EXTENSION INDICATOR MAHAPRANA SEVENTEEN SPADES THOUSANDS TURNSTILE TWELVE VERTICALLY
    VERY ZAPYATAYA APPROXIMATELY CARRIER FIFTEEN LEFT-TO-RIGHT PHA SALTIRE CURVE DOUBLE-LINE
    EIGHTEEN ENVELOPE FORTY INFORMATION JIHVAMULIYA KAPPA MINUS OLD PINWHEEL SEEN SIDEWAYS
    SINGLE-LINE UPADHMANIYA DASHED MOON RISING SIDE SPREAD ALEPH GHAIN SIXTY SOUND UNION
    BLACK-LETTER ELEMENT INVERSE NASKAPI NUMERAL ROUNDED SIXTEEN SVARITA TTA BACKSLASH DDA GHA
    RECTANGLE SUBSCRIPT BACKHAND BISHOP CENTRALIZATION CONTAINS DHA DIVISION DODEKATA ELEVEN
    ELLIPSIS EQUIHOPPER EXTENDED FOURTEEN GIMEL GROMOPOVODNAYA HYPHEN KASKAL MOUNTAIN MOVEMENT
    NINETEEN NOTATION OCLOCK OPPOSING OVERLINE PARALLEL QUEEN RIGHT-SHADOWED SLASH SUBGROUP
    SVETLAYA TEDUNG THIRTEEN Y-CREE NUN DISH ASH BAMBOOS CEILING CONTROL EYEGAZE-WALLPLANE
    INTERROBANG LARGEST NNA NOTCHED PIEUP-SIOS-TIKEUT SADHE SHADE BHA CURL CURVED EGYPTOLOGICAL
    ITALIC LEAF ONE-HUNDRED-AND-SIXTIETH PARENTHESIZED RIGHT-TO-LEFT WAVE AIRPLANE CLUBS EARTH
    EXTREMELY EYES FISHHOOK JAPANESE LAMDA MILLIONS OUTLINED PLASTICS SIXTEENTH SUBJOINED TOP
    WRINKLED ZAYIN SSA BARRED BESIDE BYELORUSSIAN-UKRAINIAN CANCELLATION CENTRED CHIEUCH COMMERCIAL
    DALETH GEMINATION HANGUL HYPHEN-MINUS J-SIMPLIFIED KHIEUKH LUNATE MIDDLE-WELSH NORMAL NOTE
    PARTIAL PHIEUPH PRESENTATION RIEUL-KIYEOK RIGHT-FACING SEMICIRCLE SEMIDIRECT SHESHIG STATERS
    SUBUNIT THIEUTH TONE-2 TONE-5 TRANSMISSION VOICED FOR ICHOS KAPYEOUNPHIEUPH KASRA POINT THIRD
    WATER BETA HEAD KLYUCHENEPOSTOYANNAYA THE WAW END LAM ACKNOWLEDGE ANTIMONY APPROXIMATE ATTACHED
    BALLOON-SPOKED BUBBLE CHECK CRESCENT EKFONITIKON FATHA FATHATAN FILLER FINGER-POST GAN2
    HAND-CUP HIRAGANA INFINITY JHA KHOKHLOM KING LAGAB LEFT-FACING LOOP MONOGRAM NIEUN-CIEUC
    NIEUN-HIEUH NUBIAN PRIME REST RIEUL-HIEUH RIEUL-MIEUM RIEUL-PIEUP ROUND RTAGS SAYISI SCISSORS
    SSANGKIYEOK SSANGTIKEUT THESPIAN THIRDS TONE-3 TRESVETLAYA TWENTY-FIVE WRIST ZAPYATOY FALLING
    HAND-HOOK HAND-OVAL KENTIMATA PARAGRAPH SIDDHAM SIMILAR SUBLIMATE TALENTS VARIATION BETH
    DVOECHELNOPOVODNAYA RIEUL-KAPYEOUNPIEUP SHE AIN CLICK HAND-CURLICUE KAPYEOUNMIEUM KAPYEOUNPIEUP
    MURDA PERPENDICULAR PRISHTHAMATRA RIEUL-PHIEUPH RIEUL-THIEUTH THIRTY-SECOND TRANSPOSITION TSHEG
    ARROW-TAIL ARROWHEADS DRAGON EXTRA-HIGH EYEGAZE-FLOORPLANE FINGER GISH KAPH KAPYEOUNSSANGPIEUP
    KIYEOK KOMI LENGTHENER LONSUM MARKER NIKOLSBURG PAIRED PIEUP-SIOS RIEUL-SIOS SECANT SEQUENTIAL
    SHAD SILHOUETTE SIMPLIFIED SIXTEENTHS SSANGCIEUC SSANGPIEUP TAK4 TIKEUT ZIGZAG REH ANUDATTA
    ARMENIAN BARLINE BIRGA BUILDING CARET CIRCULAR CONSTRUCTION CONTACT CORNERS CURRENCY DAMMA
    DAMMATAN DIGAMMA DIVIDER DVOECHELNAYA FLOOR FLOURISH FRONT-TILTED GEORGIAN HETH HOLDING
    IDEOGRAM IOTATED IZHITSA KAF KASRATAN KEYBOARD KOET LOGOGRAM MEASURE MEASURED NASALIZATION
    NIEUN-TIKEUT ONCOMING ORIGINAL PENTAGON PIEUP-SIOS-KIYEOK PIEUP-TIKEUT RIEUL-KIYEOK-SIOS
    RIEUL-SSANGKIYEOK RIEUL-TIKEUT RIEUL-YEORINHIEUH RIGHT-SHADED SCHWA SEMICIRCULAR SHAR2
    SIXTY-FOURTH TSA TSHA"

def nameTable : String :=
  "=20 alr ady_bl aej_bl ads_am aDOLLAR_am aPERCENT_am ang aky aax_cf aak_cf adk adb_am aew asu
    aii_gg ahl act_fb bcu bcn bay bbv bca bga bbx bbt bdo aiv ajy abw_am agq_am abj_am aff_bl
    asq_AT afu_ae_ac_A dB dC dD dE dF dG dH dI dJ dK dL dM dN dO dP dQ dR dS dT dU dV dW dX dY dZ
    aax_bp_bf ahy_hl aak_bp_bf abg_fv aiy_ge aei_fv afu_af_ac_A dB dC dD dE dF dG dH dI dJ dK dL dM
    dN dO dP dQ dR dS dT dU dV dW dX dY dZ aax_kg_bf aap_ge aak_kg_bf acs =A0 aNO-BREAK_lr
    acc_dy_bl aCENT_am aPOUND_am aym_am aYEN_am aBROKEN_gh ahk_am abm aCOPYRIGHT_am
    aFEMININE_ORDINAL_nm aec_an_ft_ej_bl amw_am aSOFT_qd aREGISTERED_am adr aDEGREE_am
    aPLUS-MINUS_am aho_cn bay ade_fv aMICRO_am aPILCROW_am abd_dc agi aho_cu aMASCULINE_ORDINAL_nm
    add_an_ft_ej_bl aVULGAR_hs_cu_fl ddj cay_jn acc_ff_bl afu_ae_ac_A_ad_ei fde fbg fcs fbm fel_al
    dAE dC_ad_gi dE_ad_ei fde fbg fbm dI_ad_ei fde fbg fbm dETH dN_ad_cs dO_ad_ei fde fbg fcs fbm
    agy_am afu_ae_ac_O_ad_av dU_ad_ei fde fbg fbm dY_ad_de dTHORN baf_ac_SHARP_S dA_ad_ei fde fbg
    fcs fbm fel_al dAE dC_ad_gi dE_ad_ei fde fbg fbm dI_ad_ei fde fbg fbm dETH dN_ad_cs dO_ad_ei
    fde fbg fcs fbm apu_am afu_af_ac_O_ad_av dU_ad_ei fde fbg fbm dY_ad_de dTHORN dY_ad_bm
    bae_ac_A_ad_dr baf_ac_A_ad_dr bae_ac_A_ad_fi baf_ac_A_ad_fi bae_ac_A_ad_mx baf_ac_A_ad_mx
    bae_ac_C_ad_de baf_ac_C_ad_de bae_ac_C_ad_bg baf_ac_C_ad_bg bae_ac_C_ad_dc_al baf_ac_C_ad_dc_al
    bae_ac_C_ad_gv baf_ac_C_ad_gv bae_ac_D_ad_gv baf_ac_D_ad_gv bae_ac_D_ad_av baf_ac_D_ad_av
    bae_ac_E_ad_dr baf_ac_E_ad_dr bae_ac_E_ad_fi baf_ac_E_ad_fi bae_ac_E_ad_dc_al baf_ac_E_ad_dc_al
    bae_ac_E_ad_mx baf_ac_E_ad_mx bae_ac_E_ad_gv baf_ac_E_ad_gv bae_ac_G_ad_bg baf_ac_G_ad_bg
    bae_ac_G_ad_fi baf_ac_G_ad_fi bae_ac_G_ad_dc_al baf_ac_G_ad_dc_al bae_ac_G_ad_gi baf_ac_G_ad_gi
    bae_ac_H_ad_bg baf_ac_H_ad_bg bae_ac_H_ad_av baf_ac_H_ad_av bae_ac_I_ad_cs baf_ac_I_ad_cs
    bae_ac_I_ad_dr baf_ac_I_ad_dr bae_ac_I_ad_fi baf_ac_I_ad_fi bae_ac_I_ad_mx baf_ac_I_ad_mx
    bae_ac_I_ad_dc_al baf_ac_lf_I bae_eo_IJ baf_eo_IJ bae_ac_J_ad_bg baf_ac_J_ad_bg bae_ac_K_ad_gi
    baf_ac_K_ad_gi dKRA bae_ac_L_ad_de baf_ac_L_ad_de bae_ac_L_ad_gi baf_ac_L_ad_gi bae_ac_L_ad_gv
    baf_ac_L_ad_gv bae_ac_L_ad_bd_dc baf_ac_L_ad_bd_dc bae_ac_L_ad_av baf_ac_L_ad_av bae_ac_N_ad_de
    baf_ac_N_ad_de bae_ac_N_ad_gi baf_ac_N_ad_gi bae_ac_N_ad_gv baf_ac_N_ad_gv ePRECEDED_BY_ky
    bae_ac_ENG baf_ac_ENG bae_ac_O_ad_dr baf_ac_O_ad_dr bae_ac_O_ad_fi baf_ac_O_ad_fi
    bae_ac_O_ad_an_de baf_ac_O_ad_an_de bae_eo_OE baf_eo_OE bae_ac_R_ad_de baf_ac_R_ad_de
    bae_ac_R_ad_gi baf_ac_R_ad_gi bae_ac_R_ad_gv baf_ac_R_ad_gv bae_ac_S_ad_de baf_ac_S_ad_de
    bae_ac_S_ad_bg baf_ac_S_ad_bg bae_ac_S_ad_gi baf_ac_S_ad_gi bae_ac_S_ad_gv baf_ac_S_ad_gv
    bae_ac_T_ad_gi baf_ac_T_ad_gi bae_ac_T_ad_gv baf_ac_T_ad_gv bae_ac_T_ad_av baf_ac_T_ad_av
    bae_ac_U_ad_cs baf_ac_U_ad_cs bae_ac_U_ad_dr baf_ac_U_ad_dr bae_ac_U_ad_fi baf_ac_U_ad_fi
    bae_ac_U_ad_el_al baf_ac_U_ad_el_al bae_ac_U_ad_an_de baf_ac_U_ad_an_de bae_ac_U_ad_mx
    baf_ac_U_ad_mx bae_ac_W_ad_bg baf_ac_W_ad_bg bae_ac_Y_ad_bg baf_ac_Y_ad_bg bae_ac_Y_ad_bm
    dZ_ad_de baf_ac_Z_ad_de bae_ac_Z_ad_dc_al baf_ac_Z_ad_dc_al bae_ac_Z_ad_gv baf_ac_Z_ad_gv dfm_S
    dB_ad_av bae_ac_B_ad_by fTOPBAR baf_ac_B_ad_TOPBAR bae_ac_fq_ga baf_ac_fq_ga bae_ac_fj_O
    dC_ad_by baf_ac_C_ad_by bae_ac_AFRICAN_D dD_ad_by fTOPBAR baf_ac_D_ad_TOPBAR dcj_mo bae_ac_bs_E
    dzu dfj_E dF_ad_by baf_ac_F_ad_by bae_ac_G_ad_by dln baf_ac_HV bae_ac_mk dI_ad_av dK_ad_by
    baf_ac_K_ad_by dL_ad_gh dLAMBDA_ad_av bae_ac_cj_M dN_ad_ax_by baf_ac_N_ad_fm_ak_LEG
    bae_ac_O_ad_bd_cs flk baf_ac_O_ad_lk bae_ac_OI baf_ac_OI bae_ac_P_ad_by baf_ac_P_ad_by bac_YR
    bae_ac_fq_cn baf_ac_fq_cn bae_ac_ESH bac_bs_ESH_va baf_ac_T_ad_gj_by bae_ac_T_ad_by
    baf_ac_T_ad_by bae_ac_T_ad_da_by dU_ad_lk baf_ac_U_ad_lk bae_ac_gs dV_ad_by dY_ad_by
    baf_ac_Y_ad_by bae_ac_Z_ad_av baf_ac_Z_ad_av bae_ac_EZH ebs baf_ac_EZH_bs ead_ia bac_cn_ad_av
    bae_ac_fq_ca baf_ac_fq_ca bac_cc_gr_gg_ad_av cWYNN cDENTAL_wm cLATERAL_wm cALVEOLAR_wm cda_wm
    bae_ac_DZ_ad_gv dD_ad_af_ac_Z_ad_gv baf_ac_DZ_ad_gv bae_ac_LJ dL_ad_af_ac_J baf_ac_LJ bae_ac_NJ
    dN_ad_af_ac_J baf_ac_NJ bae_ac_A_ad_gv baf_ac_A_ad_gv bae_ac_I_ad_gv baf_ac_I_ad_gv
    bae_ac_O_ad_gv baf_ac_O_ad_gv bae_ac_U_ad_gv baf_ac_U_ad_gv bae_ac_U_ad_bm_bk_dr
    baf_ac_U_ad_bm_bk_dr bae_ac_U_ad_bm_bk_de baf_ac_U_ad_bm_bk_de bae_ac_U_ad_bm_bk_gv
    baf_ac_U_ad_bm_bk_gv bae_ac_U_ad_bm_bk_ei baf_ac_U_ad_bm_bk_ei dcj_E bae_ac_A_ad_bm_bk_dr
    baf_ac_A_ad_bm_bk_dr bae_ac_A_ad_dc_al_bk_dr baf_ac_A_ad_dc_al_bk_dr bae_ac_AE_ad_dr
    baf_ac_AE_ad_dr bae_ac_G_ad_av baf_ac_G_ad_av bae_ac_G_ad_gv baf_ac_G_ad_gv bae_ac_K_ad_gv
    baf_ac_K_ad_gv bae_ac_O_ad_mx baf_ac_O_ad_mx bae_ac_O_ad_mx_bk_dr baf_ac_O_ad_mx_bk_dr
    bae_ac_EZH_ad_gv baf_ac_EZH_ad_gv dJ_ad_gv bae_ac_DZ dD_ad_af_ac_Z baf_ac_DZ bae_ac_G_ad_de
    baf_ac_G_ad_de bae_ac_HWAIR dWYNN dN_ad_ei baf_ac_N_ad_ei bae_ac_A_ad_el_al_bk_de
    baf_ac_A_ad_el_al_bk_de bae_ac_AE_ad_de baf_ac_AE_ad_de bae_ac_O_ad_av_bk_de
    baf_ac_O_ad_av_bk_de bae_ac_A_ad_an_ei baf_ac_A_ad_an_ei bae_ac_A_ad_cc_fi baf_ac_A_ad_cc_fi
    bae_ac_E_ad_an_ei baf_ac_E_ad_an_ei bae_ac_E_ad_cc_fi baf_ac_E_ad_cc_fi bae_ac_I_ad_an_ei
    baf_ac_I_ad_an_ei bae_ac_I_ad_cc_fi baf_ac_I_ad_cc_fi bae_ac_O_ad_an_ei baf_ac_O_ad_an_ei
    bae_ac_O_ad_cc_fi baf_ac_O_ad_cc_fi bae_ac_R_ad_an_ei baf_ac_R_ad_an_ei bae_ac_R_ad_cc_fi
    baf_ac_R_ad_cc_fi bae_ac_U_ad_an_ei baf_ac_U_ad_an_ei bae_ac_U_ad_cc_fi baf_ac_U_ad_cc_fi
    bae_ac_S_ad_ew_as baf_ac_S_ad_ew_as bae_ac_T_ad_ew_as baf_ac_T_ad_ew_as bae_ac_YOGH baf_ac_YOGH
    bae_ac_H_ad_gv baf_ac_H_ad_gv bae_ac_N_ad_fm_ak_LEG baf_ac_D_ad_rk bae_ac_OU baf_ac_OU
    bae_ac_Z_ad_by baf_ac_Z_ad_by bae_ac_A_ad_dc_al baf_ac_A_ad_dc_al bae_ac_E_ad_gi baf_ac_E_ad_gi
    bae_ac_O_ad_bm_bk_dr baf_ac_O_ad_bm_bk_dr bae_ac_O_ad_cs_bk_dr baf_ac_O_ad_cs_bk_dr
    bae_ac_O_ad_dc_al baf_ac_O_ad_dc_al bae_ac_O_ad_dc_al_bk_dr baf_ac_O_ad_dc_al_bk_dr
    bae_ac_Y_ad_dr baf_ac_Y_ad_dr dL_ad_rk dN_ad_rk dT_ad_rk dlf_J dDB_gp dQP_gp bae_ac_A_ad_av
    dC_ad_av baf_ac_C_ad_av bae_ac_L_ad_gh dT_ad_dn_av baf_ac_S_ad_SWASH_ia dZ_ad_SWASH_ia
    bae_ac_gr_gg baf_ac_gr_gg bae_ac_B_ad_av dU_gh dcj_V dE_ad_av baf_ac_E_ad_av bae_ac_J_ad_av
    baf_ac_J_ad_av bae_ac_af_Q_ad_by_ia baf_ac_Q_ad_by_ia bae_ac_R_ad_av baf_ac_R_ad_av
    bae_ac_Y_ad_av baf_ac_Y_ad_av dcj_A dip dcj_ip dB_ad_by dfj_O dC_ad_rk dD_ad_ia fby dbs_E dzu
    ead_by dfj_E dbs_fj_E gad_by dgo_bs_fj_E dlf_J_ad_av dG_ad_by dio_G bac_af_ae_G baf_ac_ln
    dRAMS_lk dcj_H dH_ad_by dHENG_ad_by dI_ad_av dmk bac_af_ae_I baf_ac_L_ad_bd_cs fBELT fda_by
    dLEZH dcj_M fad_fm_LEG dM_ad_by dN_ad_ax_by fda_by bac_af_ae_N baf_ac_sk_O bac_af_ae_OE
    baf_ac_go_hu dPHI dcj_R fad_fm_LEG gby dR_ad_fm_LEG fia fry dbs_R_ad_ry bac_af_ae_R ecc_R
    baf_ac_S_ad_by dESH dlf_J_ad_av_bk_by dSQUAT_bs_ESH dESH_ad_rk dcj_T dT_ad_da_by dU_gh dgs
    dV_ad_by dcj_V eW eY bac_af_ae_Y baf_ac_Z_ad_da_by frk dEZH ead_rk bac_gr_gg
    cPHARYNGEAL_tp_FRICATIVE ccc_gr_gg cSTRETCHED_C cBILABIAL_wm caf_ae_B baf_ac_go_fj_E
    bac_af_ae_G_ad_by eH baf_ac_J_ad_jg dcj_K bac_af_ae_L baf_ac_Q_ad_by bac_gr_gg_ad_av
    cbs_gr_gg_ad_av baf_ac_DZ_gp dDEZH_gp dDZ_gp_ad_rk dTS_gp dTESH_gp dTC_gp_ad_rk dFENG_gp dLS_gp
    dLZ_gp bac_BILABIAL_PERCUSSIVE cBIDENTAL_PERCUSSIVE baf_ac_cj_H_ad_ry hbk_ia aez_ac_af_H ead_by
    dJ dR dcj_R fad_by dae_cc_R dW dY cvf can_vf ccj_ew cky cbs_ew cak_dj_el cax_dj_el cgr_gg
    cbs_gr_gg cax_bo cak_bo cUP_bo cdi_bo cbg_fv agv aez_ac_ap_ge cdr cde_fv cei_fv ciy_ap_ge ddr
    dei_fv dde_fv cfc_iv cdj_fc_iv cso_ak_dj_el dax_dj_el cUP_ll cdi_ll cdb_am cok_am afi adc_al
    ael_al amx aaf_cs aan_de_fv aez_ac_RHOTIC_by cgu_fv caf_ln dL dS dX dbs_gr_gg cxb_fq_gh
    cfy_fq_gh cMID_fq_gh ciy_fq_gh cEXTRA-LOW_fq_gh cYIN_DEPARTING_fq_bl cYANG_DEPARTING_fq_bl
    cVOICING cUNASPIRATED can_ky ciy_di_bo dUP_bo dax_bo dak_bo del cbd_ei_fv dan_ei_fv ede_fv
    ciy_cs cij_iv cBEGIN_fy_fq cuc_fy_fq cBEGIN_iy_fq cuc_iy_fq cSHELF cfj_SHELF ciy_ax_ag
    adl_ei_fv bde_fv bbg_fv bcs bdr bql bfi bdc_al bbm bby_al bel_al ban_de_fv bgv bap_ge_al
    ban_ap_ge_al cei_fv bdh bcc_fi bcj_ew_al bew_al bbs_ew_al bew_al_ak bei_fv_as bde_fv_as
    bax_ll_as bak_ll_as bax_ft_al blk bax_dj_el_as bUP_ll_as bdi_ll_as bdb_am_as bok_am_as
    bPALATALIZED_by_as bda_by_as bdc_as bbm_as bel_as bew_as bgi bmx bap_ge_as bBRIDGE_as
    bcc_an_ARCH_as bgv_as bbg_fv_as bfi_as bcc_fi_as bcs_as bdr_as biy_ge ban_iy_ge bcs_hq
    bfw_av_hq bfm_av_hq bfw_hl_hq bfm_hl_hq bak_dj_el_as bcc_BRIDGE_as bbp_as bSEAGULL_as bX_al
    bap_cs ban_ql bei_fq_bl bde_fq_bl bkr_cb cKORONIS cis_ne cbz bBRIDGE_al bgq_am_as ban_ap_ge_as
    bax_ft_as bmw_cs_al bHOMOTHETIC_al bma_cm_TO_al bax_ak_ag_as bbr_ag_as bGRAPHEME_JOINER
    bak_bo_al bax_dj_el_al bFERMATA bX_as bax_bo_as bak_bo_as dbk_UP_bo_as cdj_el_al bdc_al_ak
    bdk_as ban_el_as bya_al ban_fi_as d cdr das ccs ccc_fi caj_ag_as bfu_af_ac_A eE eI eO eU eC eD
    eH eM eR eT eV eX akr_ae_ac_HETA baf_ac_HETA bae_ac_jb_SAMPI baf_ac_jb_SAMPI bpf_am bcw_pf_am
    bae_ac_PAMPHYLIAN_yp baf_ac_PAMPHYLIAN_yp =37A bbz baf_bs_sx_kl_aw cgb_sx_kl_aw cbs_gb_sx_kl_aw
    bff_bl bae_ac_YOT =384 bne bis_ne bae_ac_ip_ad_ne bANO_TELEIA bae_ac_gz_ad_ne dETA_ad_ne
    dmk_ad_ne =38C djl_ad_ne =38E dgs_ad_ne dhu_ad_ne baf_ac_mk_ad_is_bk_ne bae_ac_ip dtx dln dmo
    dgz dZETA dETA dkw dmk doj dsa dMU dNU dXI djl dPI dRHO =3A3 dkl dTAU dgs dPHI dCHI dPSI dhu
    dmk_ad_is dgs_ad_is baf_ac_ip_ad_ne dgz_ad_ne dETA_ad_ne dmk_ad_ne dgs_ad_is_bk_ne dip dtx dln
    dmo dgz dZETA dETA dkw dmk doj dsa dMU dNU dXI djl dPI dRHO dat_kl dkl dTAU dgs dPHI dCHI dPSI
    dhu dmk_ad_is dgs_ad_is djl_ad_ne dgs_ad_ne dhu_ad_ne bae_KAI_aw btx_aw bkw_aw bgs_ad_by_aw
    dde_bk_by_aw dbm_bk_by_aw bPHI_aw bPI_aw bKAI_aw bac_jb_KOPPA baf_ac_jb_KOPPA bac_STIGMA
    baf_ac_STIGMA bac_yp baf_ac_yp bac_KOPPA baf_ac_KOPPA bac_SAMPI baf_ac_SAMPI ain_ae_ac_SHEI
    baf_ac_SHEI bae_ac_FEI baf_ac_FEI bae_ac_KHEI baf_ac_KHEI bae_ac_HORI baf_ac_HORI bae_ac_GANGIA
    baf_ac_GANGIA bae_ac_SHIMA baf_ac_SHIMA bae_ac_DEI baf_ac_DEI akr_oj_aw bRHO_aw bsx_kl_aw
    bac_YOT bae_kw_aw bsx_gz_aw bbs_sx_gz_aw bae_ac_SHO baf_ac_SHO bae_sx_kl_aw cac_SAN baf_ac_SAN
    bRHO_ad_av_aw bae_bs_sx_kl_aw cgb_sx_kl_aw cbs_gb_sx_kl_aw ajv_ae_ac_IE_ad_ei dIO dDJE dGJE
    dUKRAINIAN_IE dDZE dsm_I dYI dJE dLJE dNJE dTSHE dKJE dI_ad_ei dfw_U dDZHE dA dBE dVE dGHE dDE
    dIE dZHE dZE dI dfw_I dKA dEL dEM dEN dO dPE dER dES dTE dU dEF dHA dTSE dCHE dkx dSHCHA
    dHARD_am dYERU dSOFT_am dE dYU dYA baf_ac_A dBE dVE dGHE dDE dIE dZHE dZE dI dfw_I dKA dEL dEM
    dEN dO dPE dER dES dTE dU dEF dHA dTSE dCHE dkx dSHCHA dHARD_am dYERU dSOFT_am dE dYU dYA
    dIE_ad_ei dIO dDJE dGJE dUKRAINIAN_IE dDZE dsm_I dYI dJE dLJE dNJE dTSHE dKJE dI_ad_ei dfw_U
    dDZHE bae_ac_hu baf_ac_hu bae_ac_YAT baf_ac_YAT bae_ac_ix_E baf_ac_ix_E bae_ac_ed_YUS
    baf_ac_ed_YUS bae_ac_ix_ed_YUS baf_ac_ix_ed_YUS bae_ac_BIG_YUS baf_ac_BIG_YUS bae_ac_ix_BIG_YUS
    baf_ac_ix_BIG_YUS bae_ac_KSI baf_ac_KSI bae_ac_PSI baf_ac_PSI bae_ac_FITA baf_ac_FITA bae_ac_za
    baf_ac_za bae_ac_za_ad_an_ei_fv baf_ac_za_ad_an_ei_fv bae_ac_UK baf_ac_UK bae_ac_vk_hu
    baf_ac_vk_hu bae_ac_hu_ad_TITLO baf_ac_hu_ad_TITLO bae_ac_OT baf_ac_OT bae_ac_KOPPA
    baf_ac_KOPPA bnq_am adl_jv_TITLO cPALATALIZATION cdx_PNEUMATA cea_PNEUMATA cPOKRYTIE cbb_nq_am
    csb_am ajv_ae_ac_fw_I_ad_ia baf_ac_fw_I_ad_ia bae_ac_SEMISOFT_am baf_ac_SEMISOFT_am
    bae_ac_ER_ad_TICK baf_ac_ER_ad_TICK bae_ac_GHE_ad_UPTURN baf_ac_GHE_ad_UPTURN bae_ac_GHE_ad_av
    baf_ac_GHE_ad_av bae_ac_GHE_ad_bd_by baf_ac_GHE_ad_bd_by bae_ac_ZHE_ad_df baf_ac_ZHE_ad_df
    bae_ac_ZE_ad_df baf_ac_ZE_ad_df bae_ac_KA_ad_df baf_ac_KA_ad_df bae_ac_KA_ad_ap_av
    baf_ac_KA_ad_ap_av bae_ac_KA_ad_av baf_ac_KA_ad_av bae_ac_BASHKIR_KA baf_ac_BASHKIR_KA
    bae_ac_EN_ad_df baf_ac_EN_ad_df bae_eo_EN_GHE baf_eo_EN_GHE bae_ac_PE_ad_bd_by
    baf_ac_PE_ad_bd_by bae_ac_nf_HA baf_ac_nf_HA bae_ac_ES_ad_df baf_ac_ES_ad_df bae_ac_TE_ad_df
    baf_ac_TE_ad_df bae_ac_gm_U baf_ac_gm_U bae_ac_gm_U_ad_av baf_ac_gm_U_ad_av bae_ac_HA_ad_df
    baf_ac_HA_ad_df bae_eo_TE_TSE baf_eo_TE_TSE bae_ac_CHE_ad_df baf_ac_CHE_ad_df
    bae_ac_CHE_ad_ap_av baf_ac_CHE_ad_ap_av bae_ac_SHHA baf_ac_SHHA bae_ac_nf_CHE baf_ac_nf_CHE
    bae_ac_nf_CHE_ad_df baf_ac_nf_CHE_ad_df bac_PALOCHKA bae_ac_ZHE_ad_fi baf_ac_ZHE_ad_fi
    bae_ac_KA_ad_by baf_ac_KA_ad_by bae_ac_EL_ad_ia baf_ac_EL_ad_ia bae_ac_EN_ad_by baf_ac_EN_ad_by
    bae_ac_EN_ad_ia baf_ac_EN_ad_ia bae_ac_KHAKASSIAN_CHE baf_ac_KHAKASSIAN_CHE bae_ac_EM_ad_ia
    baf_ac_EM_ad_ia dPALOCHKA bae_ac_A_ad_fi baf_ac_A_ad_fi bae_ac_A_ad_bm baf_ac_A_ad_bm
    bae_eo_A_IE baf_eo_A_IE bae_ac_IE_ad_fi baf_ac_IE_ad_fi bae_ac_zu baf_ac_zu bae_ac_zu_ad_bm
    baf_ac_zu_ad_bm bae_ac_ZHE_ad_bm baf_ac_ZHE_ad_bm bae_ac_ZE_ad_bm baf_ac_ZE_ad_bm bae_ac_nf_DZE
    baf_ac_nf_DZE bae_ac_I_ad_dr baf_ac_I_ad_dr bae_ac_I_ad_bm baf_ac_I_ad_bm bae_ac_O_ad_bm
    baf_ac_O_ad_bm bae_ac_sk_O baf_ac_sk_O bae_ac_sk_O_ad_bm baf_ac_sk_O_ad_bm bae_ac_E_ad_bm
    baf_ac_E_ad_bm bae_ac_U_ad_dr baf_ac_U_ad_dr bae_ac_U_ad_bm baf_ac_U_ad_bm bae_ac_U_ad_an_de
    baf_ac_U_ad_an_de bae_ac_CHE_ad_bm baf_ac_CHE_ad_bm bae_ac_GHE_ad_df baf_ac_GHE_ad_df
    bae_ac_YERU_ad_bm baf_ac_YERU_ad_bm bae_ac_GHE_ad_av_bk_by baf_ac_GHE_ad_av_bk_by
    bae_ac_HA_ad_by baf_ac_HA_ad_by bae_ac_HA_ad_av baf_ac_HA_ad_av bae_ac_xi_DE baf_ac_xi_DE
    bae_ac_xi_DJE baf_ac_xi_DJE bae_ac_xi_ZJE baf_ac_xi_ZJE bae_ac_xi_DZJE baf_ac_xi_DZJE
    bae_ac_xi_LJE baf_ac_xi_LJE bae_ac_xi_NJE baf_ac_xi_NJE bae_ac_xi_SJE baf_ac_xi_SJE
    bae_ac_xi_TJE baf_ac_xi_TJE bae_ac_bs_ZE baf_ac_bs_ZE bae_ac_EL_ad_by baf_ac_EL_ad_by
    bae_ac_LHA baf_ac_LHA bae_ac_RHA baf_ac_RHA bae_ac_YAE baf_ac_YAE bae_ac_QA baf_ac_QA bae_ac_WE
    baf_ac_WE bae_ac_ALEUT_KA baf_ac_ALEUT_KA bae_ac_EL_ad_bd_by baf_ac_EL_ad_bd_by
    bae_ac_EN_ad_bd_by baf_ac_EN_ad_bd_by bae_ac_PE_ad_df baf_ac_PE_ad_df bae_ac_SHHA_ad_df
    baf_ac_SHHA_ad_df bae_ac_EN_ad_ax_by baf_ac_EN_ad_ax_by bae_ac_DZZHE baf_ac_DZZHE bae_ac_DCHE
    baf_ac_DCHE bae_ac_EL_ad_df baf_ac_EL_ad_df =531 ayd_ae_ac_AYB dBEN dGIM dDA dECH dZA dEH dET
    dTO dZHE dINI dLIWN dXEH dCA dKEN dHO dJA dGHAD dCHEH dMEN dYI dNOW dkx dVO dlm dPEH dJHEH dRA
    dSEH dVEW dTIWN dyb dCO dYIWN dPIWR dKEH dOH dFEH =559 bez_ac_ax_dj_el bky bEMPHASIS_bl bdy_bl
    bew bff_bl bex_bl baf_ac_cj_AYB dAYB dBEN dGIM dDA dECH dZA dEH dET dTO dZHE dINI dLIWN dXEH
    dCA dKEN dHO dJA dGHAD dCHEH dMEN dYI dNOW dkx dVO dlm dPEH dJHEH dRA dSEH dVEW dTIWN dyb dCO
    dYIWN dPIWR dKEH dOH dFEH ceo_ECH_YIWN cac_YI_ad_av bii_gg bqd =58D atf_yd_ETERNITY_am
    auz_yd_ETERNITY_am ayd_DRAM_am =591 aHEBREW_fv_ETNAHTA cSEGOL cSHALSHELET cZAQEF_QATAN dGADOL
    cTIPEHA cREVIA cZARQA cPASHTA cYETIV cTEVIR cGERESH dMUQDAM cGERSHAYIM cQARNEY_PARA
    cTELISHA_GEDOLA cPAZER cATNAH_HAFUKH cMUNAH cMAHAPAKH cMERKHA dKEFULA cDARGA cQADMA
    cTELISHA_QETANA cYERAH_BEN_YOMO cOLE cILUY cDEHI cZINOR bbl_MASORA_bq btu_SHEVA cHATAF_SEGOL
    dPATAH dQAMATS cHIRIQ cTSERE cSEGOL cPATAH cQAMATS cHOLAM dHASER_tq_VAV cQUBUTS cjc_OR_MAPIQ
    cMETEG bce_MAQAF btu_RAFE bce_PASEQ btu_mz_dc cSIN_dc bce_SOF_PASUQ bbl_dt_dc ccw_dc
    bce_qv_HAFUKHA btu_QAMATS_QATAN =5D0 bac_ef cBET cqb cDALET cHE cVAV csi cHET cTET cYOD cat_zb
    czb cLAMED cat_MEM cMEM cat_qv cqv cmf cAYIN cat_PE cPE cat_TSADI cTSADI cQOF cRESH cmz cTAV
    =5EF bYOD_bi beo_YIDDISH_an_VAV dVAV_YOD dan_YOD bce_GERESH cGERSHAYIM =600 ako_ds_am bam_SANAH
    bFOOTNOTE_xl bam_SAFHA cSAMVAT bds_bl_al aim_CUBE_ROOT bFOURTH_ROOT ako_RAY aim_PER_MILLE_am
    ckc_bc_am aAFGHANI_am ako_ew bDATE_ee bPOETIC_VERSE_am bam_MISRA cSALLALLAHOU_ALAYHE_WASSALLAM
    cALAYHE_ASSALLAM cRAHMATULLAH_ALAYHE cRADI_ALLAHOU_ANHU cTAKHALLUS baf_fy_TAH
    deo_ef_ad_ud_ad_hn dZAIN cun cyn ctt bjy bac_bl buc_OF_TEXT_bl bev_dc_ce_bl bff_bl
    bac_KASHMIRI_hn cid cef_ad_MADDA_al eid_al cub_ad_id_al cef_ad_id_as chn_ad_id_al cef cBEH
    cTEH_MARBUTA d cTHEH cfk cje cie cDAL cTHAL cyb cZAIN con cnd cSAD cDAD cTAH cZAH cwl cox
    cKEHEH_ad_cn_dw_al eay_dw_as cFARSI_hn_ad_cc_V fcn_dw_al fay_dw_al bTATWEEL bac_FEH cQAF czb
    cud ccx cki cHEH cub cef_cl chn buo byo bzc bun byn btt bSHADDA bSUKUN bMADDAH_al bid_al cas
    bpo_ef bcc_yn bbl_ki_GHUNNA bZWARAKAY bcp_am_af_V_al dcc_af_V_al ddc_as bbs_yn bun_ad_cn_dw
    bWAVY_id_as aim_ct_fb ccu ccn cay cbv cca cga cbx cbt cdo ako_PERCENT_am bDECIMAL_ee bnq_ee
    bca_fd_hm bac_lf_BEH dQAF cho_ef cef_WASLA dad_WAVY_id_al gas cfy_id eef eub cU_ad_id_al
    cfy_id_hn cTTEH cTTEHEH cBEEH cTEH_ad_el eay_dw_al_ba cPEH cTEHEH cBEHEH cje_ad_id_al
    ecn_dw_ap_al cNYEH cDYEH cje_ad_ay_dw_al cTCHEH cTCHEHEH cDDAL cDAL_ad_el edc_as gbk_af_TAH
    cDAHAL cDDAHAL cDUL cDAL_ad_ay_dw_al_ba ebv_dw_al cRREH cyb_ad_af_V eel edc_as eaf_V_as
    edc_as_bk_dc_al ecn_dw_al cJEH cyb_ad_bv_dw_al con_ad_dc_as_bk_dc_al eay_dw_as hbk_ay_dw_al
    cSAD_ad_cn_dw_as eay_dw_al cTAH_ad_ay_dw_al cwl_ad_ay_dw_al clf_FEH cFEH_ad_dc_MOVED_as fas
    cVEH cFEH_ad_ay_dw_as cPEHEH cQAF_ad_dc_al eay_dw_al cKEHEH cSWASH_zb czb_ad_el edc_al cNG
    czb_ad_ay_dw_as cGAF dad_el cNGOEH cGAF_ad_cn_dw_as cGUEH cGAF_ad_ay_dw_al cud_ad_af_V edc_al
    eay_dw_al gas cki_ad_dc_as dGHUNNA cRNOON cki_ad_el eay_dw_al cHEH_DOACHASHMEE cTCHEH_ad_dc_al
    cHEH_ad_hn_al dGOAL ead_id_al cTEH_MARBUTA_GOAL cub_ad_el cKIRGHIZ_OE cOE cU cYU cKIRGHIZ_YU
    cub_ad_cn_dw_al cVE cFARSI_hn chn_ad_ia eaf_V cub_ad_dc_al cE chn_ad_ay_dw_as dBARREE ead_id_al
    bii_gg bac_AE baf_fy_eo_SAD_ad_ud_ad_ef_cl eQAF_ad_ud_ad_ef_cl dcx_ar_ah dud_ef dfk day_dw don
    buc_OF_AYAH bSTART_OF_RUB_EL_HIZB baf_fy_pg_fb dUPRIGHT_RECTANGULAR_fb dlf_ty_OF_ie dcx_ai_ah
    ciy_on cfy_MADDA cub chn cfy_hn dki bPLACE_OF_SAJDAH bEMPTY_eb_iy_gg dfy_gg
    bpg_fy_gg_ad_FILLED_eb baf_iy_cx bac_DAL_ad_cc_V cyb_ad_cc_V apz_im_ct_fb dcu dcn day dbv dca
    dga dbx dbt ddo ako_ac_nd_ad_dc_as cDAD_ad_dc_as cox_ad_dc_as bam_SINDHI_ng dPOSTPOSITION_MEN
    bac_HEH_ad_cc_V aSYRIAC_uc_OF_wb bSUPRALINEAR_ii_gg bSUBLINEAR_ii_gg bSUPRALINEAR_iv
    bSUBLINEAR_iv bau_iv biv_SKEWED_ax dak bSUPRALINEAR_iv_SKEWED_ax bSUBLINEAR_iv_SKEWED_ak
    bCONTRACTION bHARKLEAN_OBELUS cMETOBELUS cASTERISCUS =70F bex_bl bac_ALAPH cho_ALAPH cwh cGAMAL
    dGARSHUNI cDALATH clf_DALATH_RISH cHE cub cZAIN cyw cTETH dGARSHUNI cYUDH dHE cxf cLAMADH cMIM
    cqv cSEMKATH cat_SEMKATH cE cPE cbs_PE crh cQAPH cRISH cmz cTAW cPERSIAN_BHETH dGHAMAL dDHALATH
    bPTHAHA_al cas cgb bZQAPHA_al cas cgb bRBASA_al cas bgb_ZLAMA_au dANGULAR bHBASA_al cas
    bHBASA-ESASA_gb bESASA_al cas bRWAHA bFEMININE_dc bQUSHSHAYA bRUKKAKHA bcn_ap_dw_al eas
    bay_dw_al das bkv_ge_al das bMUSIC bBARREKH =74D bac_SOGDIAN_ZHAIN dKHAPH dFE
    ako_ac_BEH_ad_ay_dw_HORIZONTALLY_as edc_as_bk_ay_dw_al eay_dw_cd_br_as jbk_cn_dw_al
    ecn_dw_as_bk_dc_al ecc_af_V_as eaf_V cje_ad_cn_dw_al eay_dw_cd_br_as
    cDAL_ad_cn_dw_nt_as_bk_af_TAH ecc_af_V_as cyb_ad_av con_ad_bv_dw_al cwl_ad_cn_dw_al
    eay_dw_cd_ba_al ecn_dw_nt_al cFEH_ad_cn_dw_as eay_dw_cd_br_as cKEHEH_ad_dc_al eay_dw_al
    gcd_br_as ccx_ad_dc_al fas cki_ad_cn_dw_as eaf_TAH fV cud_ad_gh cyb_ad_cn_dw_nt_al eid_al
    con_ad_cn_dw_nt_al cje_ad_af_ko_ac_TAH_as ibk_cn_dw con_ad_af_ko_ac_TAH_bk_cn_dw
    cyb_ad_af_ko_ac_TAH_bk_cn_dw cje_ad_af_ko_ac_TAH_al cef_ad_pz_im_ct_cn_al hay_al
    cFARSI_hn_ad_pz_im_ct_cn_al iay_al ibv_as cub_ad_pz_im_ct_cn_al hay_al
    chn_BARREE_ad_pz_im_ct_cn_al iay_al cje_ad_pz_im_ct_bv_as con_ad_pz_im_ct_bv_al ecc_V
    czb_ad_cn_dw_al aTHAANA_ac_HAA cSHAVIYANI cNOONU cRAA cBAA cLHAVIYANI cKAAFU cALIFU cVAAVU
    cMEEMU cFAAFU cDHAALU cTHAA cLAAMU cGAAFU cGNAVIYANI cSEENU cDAVIYANI cZAVIYANI cTAVIYANI cYAA
    cPAVIYANI cJAVIYANI cCHAVIYANI cTTAA cHHAA cKHAA cTHAALU cZAA cSHEENU cSAADHU cDAADHU cTO cZO
    cAINU cGHAINU cQAAFU cWAAVU bABAFILI bAABAAFILI bIBIFILI bEEBEEFILI bUBUFILI bOOBOOFILI
    bEBEFILI bEYBEYFILI bOBOFILI bOABOAFILI bSUKUN bac_NAA =7C0 aNKO_ct_fb ccu ccn cay cbv cca cga
    cbx cbt cdo bac_A cEE cI cE cU cOO cO cDAGBASINNA cN cBA cPA cTA cJA clm cDA cRA cRRA cSA cGBA
    cFA cKA cLA cNA_WOLOSO cMA clp cNA cHA cWA cYA clp_WOLOSO cJONA_JA dlm dRA bdl_fw_fy_fq diy_fq
    dot_fq cfm_DESCENDING_fq dfy_fq diy_fq dot_fq czi_bl can_dc_al bfy_fq_ky biy_fq_ky
    baw_OO_DENNEN cGBAKURUNEN bew bdy_bl bLAJANYALAN =7FD bDANTAYALAN bDOROME_am bTAMAN_am
    aSAMARITAN_ac_ALAF cBIT cGAMAN cDALAT cIY cBAA cZEN cIT cTIT cYUT cKAAF cLABAT cMIM cqv
    cSINGAAT cIN cFI cTSAADIY cQUF cRISH cSHAN cTAAF bbl_IN cIN-ALAF cOCCLUSION cjc
    bez_ac_EPENTHETIC_YUT bbl_EPENTHETIC_YUT bcp_am_fm_E dE dOVERLONG_AA dfm_AA dAA dOVERLONG_A
    dfm_A dA bez_ac_fw_A bcp_am_fw_A dfm_U dU bez_ac_I bcp_am_fm_I dI dO dSUKUN bbl_NEQUDAA =830
    bce_NEQUDAA cAFSAAQ cANGED cBAU cATMAAU cSHIYYAALAA bex_bl bce_MELODIC_QITSA cZIQAA cQITSA
    cZAEF cTURU cARKAANU cSOF_MASHFAAT cANNAAU =840 aMANDAIC_ac_HALQA cAB cAG cAD cAH cUSHENNA cAZ
    cIT cATT cAKSA cAK cAL cAM cAN cAS cIN cAP cASZ cAQ cAR cqx cAT cDUSHENNA cKAD cwl
    bAFFRICATION_bl bVOCALIZATION_bl bss_bl =85E bce =860 aSYRIAC_ac_MALAYALAM_kt dJA dlp dpj dre
    dNNNA drj dRA dLLA dLLLA dsj =870 ako_ac_ef_ad_uh_un fsg_ak_un eak_bd_av eax_bd_av euh_tt
    fhb_ak_tt fvk_dc_al fak_vk_dc fax_vk_dc fvk_dc_as edc_al euh_sg_ak_un_bk_dc_al
    eak_bd_av_bk_dc_al euh_hb_ak_tt_bk_dc_al fsg_ak_un_bk_ax_el eak_bd_av_bk_ax_el
    euh_hb_ak_tt_bk_ax_el fak_id fax_id bTATWEEL_ad_OVERSTRUCK_id eub dcn_dw_as bac_THIN_hn
    bBASELINE_vk_dc bij_vk_dc bac_ki_ad_cc_af_V cje_ad_cc_af_V_as cTAH_ad_dc_as eay_dw_as
    cKEHEH_ad_cn_dw_nt_as bap_ia =890 bPOUND_bl_al bPIASTRE_bl_al =898 baf_fy_WORD_AL-JUZ
    ciy_WORD_ISHMAAM eIMAALA eTASHEEL bMADDA_WAAJIB bho_ef_MOKHASSAS bDOUBLED_MADDA
    bdj_MADDA_dz_MADDA bac_BEH_ad_af_V_as eid_al cfk_ad_cn_dw_al cTAH_ad_cn_dw_al
    cFEH_ad_dc_as_bk_ay_dw_al cQAF_ad_dc_as cud_ad_an_gh ccx_ad_ay_dw_al chn_ad_cn_dw_as_bk_id_al
    idc_al cyb_ad_va cub_ad_dc_WITHIN cROHINGYA_hn ciy_ef cDAL_ad_ay_dw_as cSAD_ad_ay_dw_as
    cGAF_ad_cc_av cgm_ub cZAIN_ad_cc_V_al cwl_ad_ay_dw_as czb_ad_dc_as cQAF_ad_dc_as_bk_NO_dw_al
    cBEH_ad_af_cx_al cPEH_ad_af_cx_al cTEH_ad_af_TEH_al cyb_ad_af_ki_al chn_ad_cn_dw_as_bk_af_ki_al
    cAFRICAN_FEH dQAF dki cPEH_ad_af_V cTEH_ad_af_V cTTEH_ad_af_V cTCHEH_ad_af_V cKEHEH_ad_af_V
    cox_ad_ay_dw_al cAFRICAN_QAF_ad_ay_dw_al cfk_ad_ay_dw_al gas cud_ad_af_ko_ac_TAH_al cGRAF
    baf_FARSI_hn cfy_FARSI_hn dhn_BARREE_ad_cn_dw_as dWORD_SAH dZAH beh_vk_dc_al eas bSUKUN_as
    beh_bq_as cvk_dc_kp_bq_as baf_iy_ub cfy_WORD_AR-RUB dSAD dwl dQAF dki_ad_tt ciy_ki_ad_tt
    cfy_WORD_ATH-THALATHA eAS-SAJDA eAN-NISF eSAKTA eQIF eWAQFA dFOOTNOTE_xl dam_SAFHA
    bDISPUTED_uc_OF_AYAH bcj_yn_as bkg_un cyn ctt cuo cyo czc bfq_cu_dc_al ccn_dw_al cva_al
    ccu_dc_as ccn_dw_as cva_as bfj_uo cyo czc baf_fy_ub bun_ad_el ddc_al btt_ad_dc_as bax_bo_al
    bak_bo_al bax_bo_as bak_bo_as ban_ak_bo_al fad_dc bak_bo_al_ad_dc byn_ad_dc bbl_oo_ki_GHUNNA
    aDEVANAGARI_am_cc_dh cdh ccv cfa bac_fw_A cA cAA cI cII cU cUU ccz_R dL cmn_E cfw_E cE cAI
    cmn_O cfw_O cO cAU cKA clu cGA cpm ckt cCA clm cJA cuv clp cpj ckb cpl cke cre cTA cml cDA cpt
    cNA cNNNA cPA coa cBA crj cMA cYA cRA cRRA cLA cLLA cLLLA cVA ckx csj cSA cHA bcp_am_OE dOOE
    bam_ku cit bcp_am_AA dI dII dU dUU dcz_R eRR dmn_E dfw_E dE dAI dmn_O dfw_O dO dAU bam_fo
    bcp_am_ws_E dAW bOM bSTRESS_am_UDATTA dyc bei_fv bde_fv bcp_am_mn_fm_E dUE dUUE bac_QA cKHHA
    cGHHA cZA cDDDHA cRHA cFA cYYA ccz_RR dLL bcp_am_cz_L eLL bjh ban_jh bct_fb ccu ccn cay cbv cca
    cga cbx cbt cdo bex_am bam_fy_SPACING_dc bac_mn_A cOE cOOE cAW cUE cUUE cMARWARI_pl cZHA cbn_YA
    cGGA cJJA cgr_gg cDDDA cBBA aBENGALI_ANJI bam_dh ccv cfa =985 bac_A cAA cI cII cU cUU ccz_R dL
    =98F cE cAI =993 cO cAU cKA clu cGA cpm ckt cCA clm cJA cuv clp cpj ckb cpl cke cre cTA cml cDA
    cpt cNA =9AA cPA coa cBA crj cMA cYA cRA =9B2 cLA =9B6 ckx csj cSA cHA =9BC bam_ku cit
    bcp_am_AA dI dII dU dUU dcz_R eRR =9C7 dE dAI =9CB dO dAU bam_fo bac_KHANDA_TA =9D7 bAU_mt_bl
    =9DC bac_RRA cRHA =9DF cYYA ccz_RR dLL bcp_am_cz_L eLL =9E6 bct_fb ccu ccn cay cbv cca cga cbx
    cbt cdo bac_RA_ad_bd_dn ecw_dn bRUPEE_bl cam bym_NUMERATOR_cu dcn day dbv
    dcu_LESS_THAN_ua_DENOMINATOR cDENOMINATOR_ph bISSHAR bGANDA_bl bac_VEDIC_cv bex_am bSANDHI_bl
    =A01 aGURMUKHI_am_ADAK_BINDI cBINDI cfa =A05 bac_A cAA cI cII cU cUU =A0F cEE cAI =A13 cOO cAU
    cKA clu cGA cpm ckt cCA clm cJA cuv clp cpj ckb cpl cke cre cTA cml cDA cpt cNA =A2A cPA coa
    cBA crj cMA cYA cRA =A32 cLA cLLA =A35 cVA ckx =A38 cSA cHA =A3C bam_ku =A3E bcp_am_AA dI dII
    dU dUU =A47 dEE dAI =A4B dOO dAU bam_fo =A51 cUDAAT =A59 bac_KHHA cGHHA cZA cRRA =A5E cFA =A66
    bct_fb ccu ccn cay cbv cca cga cbx cbt cdo bTIPPI bADDAK bIRI bURA bEK_ONKAR bam_YAKASH bex_am
    =A81 aGUJARATI_am_dh ccv cfa =A85 bac_A cAA cI cII cU cUU ccz_R dL bcp_mn_E =A8F bac_E cAI
    bcp_mn_O =A93 bac_O cAU cKA clu cGA cpm ckt cCA clm cJA cuv clp cpj ckb cpl cke cre cTA cml cDA
    cpt cNA =AAA cPA coa cBA crj cMA cYA cRA =AB2 cLA cLLA =AB5 cVA ckx csj cSA cHA =ABC bam_ku cit
    bcp_am_AA dI dII dU dUU dcz_R eRR dmn_E =AC7 dE dAI dmn_O =ACB dO dAU bam_fo =AD0 bOM =AE0
    bac_cz_RR dLL bcp_am_cz_L eLL =AE6 bct_fb ccu ccn cay cbv cca cga cbx cbt cdo bex_am bRUPEE_am
    =AF9 bac_ZHA bam_SUKUN cSHADDA cMADDAH cTHREE-DOT_ku_al cbq_ku_al cTWO-CIRCLE_ku_al =B01
    aORIYA_am_dh ccv cfa =B05 bac_A cAA cI cII cU cUU ccz_R dL =B0F cE cAI =B13 cO cAU cKA clu cGA
    cpm ckt cCA clm cJA cuv clp cpj ckb cpl cke cre cTA cml cDA cpt cNA =B2A cPA coa cBA crj cMA
    cYA cRA =B32 cLA cLLA =B35 cVA ckx csj cSA cHA =B3C bam_ku cit bcp_am_AA dI dII dU dUU dcz_R
    eRR =B47 dE dAI =B4B dO dAU bam_fo =B55 cql bAI_mt_bl bAU_mt_bl =B5C bac_RRA cRHA =B5F cYYA
    ccz_RR dLL bcp_am_cz_L eLL =B66 bct_fb ccu ccn cay cbv cca cga cbx cbt cdo bISSHAR bac_WA
    bhs_cu_fl ddj cay_jn ccu_se dic cay_xv =B82 aTAMIL_am_cv cfa =B85 bac_A cAA cI cII cU cUU =B8E
    cE cEE cAI =B92 cO cOO cAU cKA =B99 ckt cCA =B9C cJA =B9E clp cpj =BA3 cre cTA =BA8 cNA cNNNA
    cPA =BAE cMA cYA cRA cRRA cLA cLLA cLLLA cVA ckx csj cSA cHA =BBE bcp_am_AA dI dII dU dUU =BC6
    dE dEE dAI =BCA dO dOO dAU bam_fo =BD0 bOM =BD7 bAU_mt_bl =BE6 bct_fb ccu ccn cay cbv cca cga
    cbx cbt cdo bds_kc ccu_bb dbc bDAY_am bMONTH_am bYEAR_am bDEBIT_am bCREDIT_am bAS_al_am
    bRUPEE_am bds_am =C00 aTELUGU_am_dl_dh_al cdh ccv cfa cdl_cv_al bac_A cAA cI cII cU cUU ccz_R
    dL =C0E cE cEE cAI =C12 cO cOO cAU cKA clu cGA cpm ckt cCA clm cJA cuv clp cpj ckb cpl cke cre
    cTA cml cDA cpt cNA =C2A cPA coa cBA crj cMA cYA cRA cRRA cLA cLLA cLLLA cVA ckx csj cSA cHA
    =C3C bam_ku cit bcp_am_AA dI dII dU dUU dcz_R eRR =C46 dE dEE dAI =C4A dO dOO dAU bam_fo =C55
    bmt_bl bAI_mt_bl =C58 bac_zy cDZA cRRRA =C5D cNAKAARA_POLLU =C60 ccz_RR dLL bcp_am_cz_L eLL
    =C66 bct_fb ccu ccn cay cbv cca cga cbx cbt cdo =C77 bam_wc bhs_ct_fb_tq_ODD_POWERS_OF_bv
    dcu_tq_ODD_POWERS_OF_bv dcn_tq_ODD_POWERS_OF_bv day_tq_ODD_POWERS_OF_bv
    dcu_tq_EVEN_POWERS_OF_bv dcn_tq_EVEN_POWERS_OF_bv day_tq_EVEN_POWERS_OF_bv bam_TUUMU
    aKANNADA_am_SPACING_dh cdh ccv cfa cwc bac_A cAA cI cII cU cUU ccz_R dL =C8E cE cEE cAI =C92 cO
    cOO cAU cKA clu cGA cpm ckt cCA clm cJA cuv clp cpj ckb cpl cke cre cTA cml cDA cpt cNA =CAA
    cPA coa cBA crj cMA cYA cRA cRRA cLA cLLA =CB5 cVA ckx csj cSA cHA =CBC bam_ku cit bcp_am_AA dI
    dII dU dUU dcz_R eRR =CC6 dE dEE dAI =CCA dO dOO dAU bam_fo =CD5 bmt_bl bAI_mt_bl =CDD
    bac_NAKAARA_POLLU cFA =CE0 ccz_RR dLL bcp_am_cz_L eLL =CE6 bct_fb ccu ccn cay cbv cca cga cbx
    cbt cdo =CF1 bam_oi coq =D00 aMALAYALAM_am_dl_cv_al cdh ccv cfa bac_VEDIC_cv cA cAA cI cII cU
    cUU ccz_R dL =D0E cE cEE cAI =D12 cO cOO cAU cKA clu cGA cpm ckt cCA clm cJA cuv clp cpj ckb
    cpl cke cre cTA cml cDA cpt cNA cNNNA cPA coa cBA crj cMA cYA cRA cRRA cLA cLLA cLLLA cVA ckx
    csj cSA cHA cTTTA bam_ap_gh_fo cyi_fo cit bcp_am_AA dI dII dU dUU dcz_R eRR =D46 dE dEE dAI
    =D4A dO dOO dAU bam_fo bac_dc_REPH bam_PARA =D54 bac_CHILLU_M dY dLLL bAU_mt_bl bhs_cu_rp
    dFORTIETH cay_EIGHTIETHS ccu_TWENTIETH dTENTH cay_TWENTIETHS ccu_FIFTH bac_jb_II ccz_RR dLL
    bcp_am_cz_L eLL =D66 bct_fb ccu ccn cay cbv cca cga cbx cbt cdo bds_kc ccu_bb dbc bhs_cu_fl ddj
    cay_jn ccu_se dic cay_xv bDATE_bl bac_CHILLU_NN dN dRR dL dLL dK =D81 aSINHALA_am_dh
    cANUSVARAYA cVISARGAYA =D85 bac_AYANNA cAAYANNA cAEYANNA cAEEYANNA cIYANNA cIIYANNA cUYANNA
    cUUYANNA cIRUYANNA cIRUUYANNA cILUYANNA cILUUYANNA cEYANNA cEEYANNA cAIYANNA cOYANNA cOOYANNA
    cAUYANNA =D9A ckd_KAYANNA cjk_KAYANNA ckd_GAYANNA cjk_GAYANNA cKANTAJA_NAASIKYAYA
    cSANYAKA_GAYANNA ckd_CAYANNA cjk_CAYANNA ckd_JAYANNA cjk_JAYANNA cTAALUJA_NAASIKYAYA
    dSANYOOGA_NAAKSIKYAYA cSANYAKA_JAYANNA ckd_TTAYANNA cjk_TTAYANNA ckd_DDAYANNA cjk_DDAYANNA
    cMUURDHAJA_NAYANNA cSANYAKA_DDAYANNA ckd_TAYANNA cjk_TAYANNA ckd_DAYANNA cjk_DAYANNA
    cDANTAJA_NAYANNA =DB3 cSANYAKA_DAYANNA ckd_PAYANNA cjk_PAYANNA ckd_BAYANNA cjk_BAYANNA cMAYANNA
    cAMBA_BAYANNA cYAYANNA cRAYANNA =DBD cDANTAJA_LAYANNA =DC0 cVAYANNA cTAALUJA_SAYANNA
    cMUURDHAJA_SAYANNA cDANTAJA_SAYANNA cHAYANNA cMUURDHAJA_LAYANNA cFAYANNA =DCA bam_AL-LAKUNA
    =DCF bcp_am_AELA-PILLA dKETTI_AEDA-PILLA dDIGA_AEDA-PILLA dKETTI_IS-PILLA dDIGA_IS-PILLA
    dKETTI_PAA-PILLA =DD6 dDIGA_PAA-PILLA =DD8 dGAETTA-PILLA dKOMBUVA dDIGA_KOMBUVA dKOMBU_DEKA
    dKOMBUVA_HAA_AELA-PILLA fDIGA_AELA-PILLA fGAYANUKITTA dGAYANUKITTA =DE6 bLITH_ct_fb dcu dcn day
    dbv dca dga dbx dbt ddo =DF2 bcp_am_DIGA_GAETTA-PILLA eGAYANUKITTA bce_KUNDDALIYA =E01
    aTHAI_hv_KO_KAI cKHO_KHAI dKHUAT dKHWAI dKHON dRAKHANG cNGO_NGU cCHO_CHAN dCHING dCHANG cSO_SO
    cCHO_CHOE cYO_YING cDO_CHADA cTO_PATAK cTHO_THAN dNANGMONTHO dPHUTHAO cNO_NEN cDO_DEK cTO_TAO
    cTHO_THUNG dTHAHAN dTHONG cNO_NU cBO_BAIMAI cPO_PLA cPHO_PHUNG cFO_FA cPHO_PHAN cFO_FAN
    cPHO_SAMPHAO cMO_MA cYO_YAK cRO_RUA cRU cLO_LING cLU cWO_WAEN cSO_SALA dRUSI dSUA cHO_HIP
    cLO_CHULA cO_ANG cHO_NOKHUK cPAIYANNOI cSARA_A cMAI_HAN-AKAT cSARA_AA dAM dI dII dUE dUEE dU
    dUU cPHINTHU =E3F bym_aw_BAHT bhv_SARA_E dAE dO dAI_MAIMUAN eMAIMALAI cLAKKHANGYAO cMAIYAMOK
    cMAITAIKHU cMAI_EK dTHO dTRI dCHATTAWA cTHANTHAKHAT cNIKHAHIT cYAMAKKAN cFONGMAN bct_fb ccu ccn
    cay cbv cca cga cbx cbt cdo bhv_ANGKHANKHU cKHOMUT =E81 aLAO_ac_KO cKHO_SUNG =E84 dTAM =E86
    cPALI_pm cNGO cCO cPALI_lm cSO_TAM =E8C cPALI_uv cNYO cPALI_lp dpj dkb dpl dke dre cDO cTO
    cTHO_SUNG dTAM cPALI_pt cNO cBO cPO cPHO_SUNG cFO_TAM cPHO_TAM cFO_SUNG cPALI_rj cMO cYO
    cLO_LING =EA5 dLOOT =EA7 cWO cSANSKRIT_kx dsj cSO_SUNG cHO_SUNG cPALI_LLA cO cHO_TAM bpx
    bcp_am_A dMAI_KAN dAA dAM dI dII dY dYY dU dUU bam_PALI_fo bcp_am_MAI_KON bSEMIVOWEL_am_LO dNYO
    =EC0 bcp_am_E dEI dO dAY dAI =EC6 bKO_LA =EC8 bfq_MAI_EK dTHO dTI dCATAWA bsn_bl bNIGGAHITA
    =ED0 bct_fb ccu ccn cay cbv cca cga cbx cbt cdo =EDC bHO_NO cMO bac_KHMU_GO dNYO =F00
    aTIBETAN_il_OM bbl_GTER_YIG_MGO_TRUNCATED_A f-UM_RNAM_BCAD_MA gGTER_wx_MA car_YIG_MGO_MDUN_MA
    cCLOSING_YIG_MGO_SGAB_MA cyh_YIG_MGO_PHUR_xs_MA cYIG_MGO_wx_xs_MA cSBRUL_xs cBSKUR_YIG_MGO
    cBKA-_SHOG_YIG_MGO cINTERSYLLABIC_wx cDELIMITER_wx_BSTAR cxs cNYIS_xs cwx_xs cNYIS_wx_xs
    cRIN_CHEN_SPUNGS_xs cRGYA_GRAM_xs cyh_-DZUD_vl_ME_fm_CAN cGTER_wx bLOGOTYPE_am_CHAD_vl dLHAG_vl
    bASTROLOGICAL_am_SGRA_GCAN_-CHAR_vl d-KHYUD_PA dSDONG_TSHUGS bam_RDEL_DKAR_GCIG eGNYIS eGSUM
    dNAG_GCIG eGNYIS dDKAR_RDEL_NAG bct_fb ccu ccn cay cbv cca cga cbx cbt cdo cdj_cu dcn day dbv
    dca dga dbx dbt ddo dfb bbl_BSDUS_vl cNGAS_BZUNG_NYI_ZLA cyh_-DZUD_vl_BZHI_MIG_CAN
    cNGAS_BZUNG_SGOR_vl cCHE_MGO czy_-PHRU cGUG_vl_GYON eGYAS cANG_KHANG_GYON eGYAS bam_YAR_TSHES
    cMAR_TSHES bac_KA clu cGA cpm ckt cCA clm cJA =F49 clp cpj ckb cpl cke cre cTA cml cDA cpt cNA
    cPA coa cBA crj cMA czy czz cDZA cDZHA cWA cZHA cZA c-A cYA cRA cLA ckx csj cSA cHA cA cKSSA
    cFIXED-FORM_RA cKKA cRRA =F71 bcp_am_AA dI dII dU dUU dcz_R eRR eL eLL dE dEE dO dOO
    bam_RJES_SU_kt_RO cRNAM_BCAD bcp_am_bs_I eII bam_NYI_ZLA_NAA_DA cSNA_LDAN bbl_HALANTA cPALUTA
    bam_LCI_vl cYANG_vl cLCE_zy_CAN cMCHU_CAN cGRU_CAN_RGYINGS dMED_RGYINGS ccc_MCHU_CAN
    bsf_am_LCE_zy_CAN dMCHU_CAN dcc_MCHU_CAN cac_KA dlu dGA dpm dkt dCA dlm dJA =F99 dlp dpj dkb
    dpl dke dre dTA dml dDA dpt dNA dPA doa dBA drj dMA dzy dzz dDZA dDZHA dWA dZHA dZA d-A dYA dRA
    dLA dkx dsj dSA dHA dA dKSSA dFIXED-FORM_WA eYA eRA =FBE bKU_RU_lu eBZHI_MIG_CAN
    bCANTILLATION_am_bn_BEAT dco_BEAT dCANG_TE-U dSBUB_-CHAL baw_DRIL_BU cRDO_RJE cPADMA_GDAN
    cRDO_RJE_RGYA_GRAM cPHUR_PA cNOR_BU eNYIS_-KHYIL eGSUM_-KHYIL eBZHI_-KHYIL =FCE
    bam_RDEL_NAG_RDEL_DKAR eGSUM bbl_BSKA-_SHOG_GI_MGO_RGYAN cMNYAM_YIG_GI_MGO_RGYAN cNYIS_wx
    car_BRDA_RNYING_YIG_MGO_MDUN_MA cCLOSING_BRDA_RNYING_YIG_MGO_SGAB_MA atf_SVASTI_am
    auz_SVASTI_am atf_SVASTI_am_ad_dw auz_SVASTI_am_ad_dw aTIBETAN_bl_LEADING_MCHAN_vl
    cTRAILING_MCHAN_vl =1000 aMYANMAR_ac_KA clu cGA cpm ckt cCA clm cJA cuv clp cNNYA cpj ckb cpl
    cke cre cTA cml cDA cpt cNA cPA coa cBA crj cMA cYA cRA cLA cWA cSA cHA cLLA cA cSHAN_A cI cII
    cU cUU cE cMON_E cO cAU bcp_am_TALL_AA dAA dI dII dU dUU dE dAI dMON_II eO dE_al bam_cv cdc_as
    cfa cfo cASAT bfs_am_ch_YA eRA eWA eHA bac_GREAT_SA bct_fb ccu ccn cay cbv cca cga cbx cbt cdo
    bam_ed_hk chk baw_LOCATIVE cCOMPLETED cAFOREMENTIONED cGENITIVE bac_kx csj ccz_R dRR dL dLL
    bcp_am_cz_R eRR eL eLL bac_MON_kt duv dBBA dBBE bfs_am_MON_ch_NA fMA fLA bac_SGAW_KAREN_kx
    bcp_am_SGAW_KAREN_EU bfq_bl_SGAW_KAREN_HATHI fKE_PHO bac_WESTERN_PWO_KAREN_ml fPWA
    bcp_am_WESTERN_PWO_KAREN_EU gUE bam_WESTERN_PWO_KAREN_TONE-1 ftm fvs fTONE-4 ftn
    bac_EASTERN_PWO_KAREN_re fYWA fGHWA bcp_am_GEBA_KAREN_I dKAYAH_OE eU eEE bac_SHAN_KA dlu dGA
    dCA dZA dlp dDA dNA doa dFA dBA dml dHA bfs_am_SHAN_ch_WA bcp_am_SHAN_AA eE fal eat_Y
    bam_SHAN_tm dvs dtn dTONE-6 dCOUNCIL_tm evs eEMPHATIC_fq bac_RUMAI_PALAUNG_FA
    bam_RUMAI_PALAUNG_tn bSHAN_ct_fb dcu dcn day dbv dca dga dbx dbt ddo bam_KHAMTI_TONE-1 dvs
    bcp_am_AITON_A eAI baw_SHAN_cu ddy ayv_ae_ac_AN dBAN dGAN dDON dEN dVIN dZEN dTAN dIN dKAN dLAS
    dMAN dNAR dON dPAR dZHAR dRAE dSAN dTAR dUN dPHAR dKHAR dGHAN dQAR dmz dCHIN dCAN dJIL dCIL
    dCHAR dXAN dJHAN dHAE dHE dHIE dWE dHAR dHOE =10C7 dYN =10CD dAEN =10D0 bac_AN cBAN cGAN cDON
    cEN cVIN cZEN cTAN cIN cKAN cLAS cMAN cNAR cON cPAR cZHAR cRAE cSAN cTAR cUN cPHAR cKHAR cGHAN
    cQAR cmz cCHIN cCAN cJIL cCIL cCHAR cXAN cJHAN cHAE cHE cHIE cWE cHAR cHOE cFI cYN cELIFI
    ccj_GAN cwl bwb_ee aez_ac_yv_NAR ayv_ac_AEN cHARD_am cLABIAL_am ast_CHOSEONG_xh cvo cNIEUN cxz
    cvp cRIEUL cMIEUM cPIEUP cxx cSIOS cSSANGSIOS cIEUNG cCIEUC cxw csp csw ctl ctc cHIEUH
    cNIEUN-KIYEOK cSSANGNIEUN czj cNIEUN-PIEUP cTIKEUT-KIYEOK cRIEUL-NIEUN cSSANGRIEUL cvh
    cKAPYEOUNRIEUL cMIEUM-PIEUP cwo cPIEUP-KIYEOK cPIEUP-NIEUN czo cxo czn crg cPIEUP-SIOS-PIEUP
    cPIEUP-SSANGSIOS cPIEUP-SIOS-CIEUC cPIEUP-CIEUC cPIEUP-CHIEUCH cPIEUP-THIEUTH cPIEUP-PHIEUPH
    cwp cxg cSIOS-KIYEOK cSIOS-NIEUN cSIOS-TIKEUT cSIOS-RIEUL cSIOS-MIEUM cSIOS-PIEUP
    cSIOS-PIEUP-KIYEOK cSIOS-SSANGSIOS cSIOS-IEUNG cSIOS-CIEUC cSIOS-CHIEUCH cSIOS-KHIEUKH
    cSIOS-THIEUTH cSIOS-PHIEUPH cSIOS-HIEUH cCHITUEUMSIOS cCHITUEUMSSANGSIOS cCEONGCHIEUMSIOS
    cCEONGCHIEUMSSANGSIOS cPANSIOS cIEUNG-KIYEOK cIEUNG-TIKEUT cIEUNG-MIEUM cIEUNG-PIEUP
    cIEUNG-SIOS cIEUNG-PANSIOS cSSANGIEUNG cIEUNG-CIEUC cIEUNG-CHIEUCH cIEUNG-THIEUTH
    cIEUNG-PHIEUPH cYESIEUNG cCIEUC-IEUNG cCHITUEUMCIEUC cCHITUEUMSSANGCIEUC cCEONGCHIEUMCIEUC
    cCEONGCHIEUMSSANGCIEUC cCHIEUCH-KHIEUKH cCHIEUCH-HIEUH cCHITUEUMCHIEUCH cCEONGCHIEUMCHIEUCH
    cPHIEUPH-PIEUP cts cSSANGHIEUH cYEORINHIEUH cKIYEOK-TIKEUT cNIEUN-SIOS cvc cvd cTIKEUT-RIEUL
    cup bJUNGSEONG_up cA cAE cYA cYAE cEO cE cYEO cYE cO cWA cWAE cOE cYO cU cWEO cWE cWI cYU cEU
    cYI cI cA-O cA-U cYA-O cYA-YO cEO-O cEO-U cEO-EU cYEO-O cYEO-U cO-EO cO-E cO-YE cO-O cO-U
    cYO-YA cYO-YAE cYO-YEO cYO-O cYO-I cU-A cU-AE cU-EO-EU cU-YE cU-U cYU-A cYU-EO cYU-E cYU-YEO
    cYU-YE cYU-U cYU-I cEU-U cEU-EU cYI-U cI-A cI-YA cI-O cI-U cI-EU cI-ARAEA cARAEA cARAEA-EO
    cARAEA-U cARAEA-I cSSANGARAEA cA-EU cYA-U cYEO-YA cO-YA cO-YAE bJONGSEONG_xh cvo cKIYEOK-SIOS
    cNIEUN cvc cvd cxz cRIEUL cte cvi cvj cxp cwu cwt cvh cMIEUM cPIEUP cxo cSIOS cSSANGSIOS cIEUNG
    cCIEUC csp csw ctl ctc cHIEUH cKIYEOK-RIEUL cKIYEOK-SIOS-KIYEOK cNIEUN-KIYEOK czj cNIEUN-SIOS
    cNIEUN-PANSIOS cNIEUN-THIEUTH cTIKEUT-KIYEOK cTIKEUT-RIEUL czp cRIEUL-NIEUN czr
    cRIEUL-TIKEUT-HIEUH cSSANGRIEUL cRIEUL-MIEUM-KIYEOK cRIEUL-MIEUM-SIOS cRIEUL-PIEUP-SIOS
    cRIEUL-PIEUP-HIEUH cwj cRIEUL-SSANGSIOS cRIEUL-PANSIOS cRIEUL-KHIEUKH czs cMIEUM-KIYEOK
    cMIEUM-RIEUL cMIEUM-PIEUP cMIEUM-SIOS cMIEUM-SSANGSIOS cMIEUM-PANSIOS cMIEUM-CHIEUCH
    cMIEUM-HIEUH cwo cPIEUP-RIEUL cPIEUP-PHIEUPH cPIEUP-HIEUH cwp cSIOS-KIYEOK cSIOS-TIKEUT
    cSIOS-RIEUL cSIOS-PIEUP cPANSIOS cIEUNG-KIYEOK cIEUNG-SSANGKIYEOK cSSANGIEUNG cIEUNG-KHIEUKH
    cYESIEUNG cYESIEUNG-SIOS cYESIEUNG-PANSIOS cPHIEUPH-PIEUP cts cHIEUH-NIEUN cHIEUH-RIEUL
    cHIEUH-MIEUM cHIEUH-PIEUP cYEORINHIEUH cKIYEOK-NIEUN cKIYEOK-PIEUP cKIYEOK-CHIEUCH
    cKIYEOK-KHIEUKH cKIYEOK-HIEUH cSSANGNIEUN aETHIOPIC_il_HA cHU cHI cHAA cHEE cHE cHO cHOA cLA
    cLU cLI cLAA cLEE cLE cLO cLWA cHHA cHHU cHHI cHHAA cHHEE cHHE cHHO cHHWA cMA cMU cMI cMAA cMEE
    cME cMO cMWA cSZA cSZU cSZI cSZAA cSZEE cSZE cSZO cSZWA cRA cRU cRI cRAA cREE cRE cRO cRWA cSA
    cSU cSI cSAA cSEE cSE cSO cSWA ckx cSHU cSHI cSHAA cSHEE cwk cSHO cSHWA cQA cQU cQI cQAA cQEE
    cQE cQO cQOA cQWA =124A cQWI cQWAA cQWEE cQWE =1250 cQHA cQHU cQHI cQHAA cQHEE cQHE cQHO =1258
    cQHWA =125A cQHWI cQHWAA cQHWEE cQHWE =1260 cBA cBU cBI cBAA cBEE cBE cBO cBWA cVA cVU cVI cVAA
    cVEE cVE cVO cVWA cTA cTU cTI cTAA cTEE cTE cTO cTWA cCA cCU cCI cCAA cCEE cCE cCO cCWA cXA cXU
    cXI cXAA cXEE cXE cXO cXOA cXWA =128A cXWI cXWAA cXWEE cXWE =1290 cNA cNU cNI cNAA cNEE cNE cNO
    cNWA clp cNYU cNYI cNYAA cNYEE cNYE cNYO cNYWA cgr_A dU dI dAA dEE dE dO dWA cKA cKU cKI cKAA
    cKEE cKE cKO cKOA cKWA =12B2 cKWI cKWAA cKWEE cKWE =12B8 cKXA cKXU cKXI cKXAA cKXEE cKXE cKXO
    =12C0 cKXWA =12C2 cKXWI cKXWAA cKXWEE cKXWE =12C8 cWA cWU cWI cWAA cWEE cWE cWO cWOA
    cPHARYNGEAL_A dU dI dAA dEE dE dO =12D8 cZA cZU cZI cZAA cZEE cZE cZO cZWA cZHA cZHU cZHI cZHAA
    cZHEE cZHE cZHO cZHWA cYA cYU cYI cYAA cYEE cYE cYO cYOA cDA cDU cDI cDAA cDEE cDE cDO cDWA cpl
    cDDU cDDI cDDAA cDDEE cDDE cDDO cDDWA cJA cJU cJI cJAA cJEE cJE cJO cJWA cGA cGU cGI cGAA cGEE
    cGE cGO cGOA cGWA =1312 cGWI cGWAA cGWEE cGWE =1318 cGGA cGGU cGGI cGGAA cGGEE cGGE cGGO cGGWAA
    cml cTHU cTHI cTHAA cTHEE cua cTHO cTHWA clm cCHU cCHI cCHAA cCHEE cCHE cCHO cCHWA coa cPHU
    cPHI cPHAA cPHEE cPHE cPHO cPHWA czy cTSU cTSI cTSAA cTSEE cTSE cTSO cTSWA cTZA cTZU cTZI cTZAA
    cTZEE cTZE cTZO cTZOA cFA cFU cFI cFAA cFEE cFE cFO cFWA cPA cPU cPI cPAA cPEE cPE cPO cPWA
    cRYA cMYA cFYA =135D bdl_ss_bk_cp_mt_bl ccp_mt_bl css_bl bhk_bl bWORDSPACE bii_gg bew bjy biv
    bPREFACE_iv bff_bl bwb_ee bct_cu ccn cay cbv cca cga cbx cbt cdo bds_kc cfn cjp cog cir coy cfh
    cmq cgc cbb ckc_bc =1380 bil_SEBATBEIT_MWA cMWI cMWEE cMWE cSEBATBEIT_BWA cBWI cBWEE cBWE
    cSEBATBEIT_FWA cFWI cFWEE cFWE cSEBATBEIT_PWA cPWI cPWEE cPWE bTONAL_bl_YIZET dDERET dRIKRIK
    dfw_RIKRIK dDIFAT dKENAT dCHIRET dHIDET dDERET-HIDET dKURT =13A0 aCHEROKEE_ac_A cE cI cO cU cV
    cGA cKA cGE cGI cGO cGU cGV cHA cHE cHI cHO cHU cHV cLA cLE cLI cLO cLU cLV cMA cME cMI cMO cMU
    cNA cHNA cNAH cNE cNI cNO cNU cNV cQUA cQUE cQUI cQUO cQUU cQUV cSA cS cSE cSI cSO cSU cSV cDA
    cTA cDE cTE cDI cTI cDO cDU cDV cDLA cTLA cTLE cTLI cTLO cTLU cTLV czy cTSE cTSI cTSO cTSU cTSV
    cWA cWE cWI cWO cWU cWV cYA cYE cYI cYO cYU cYV cMV =13F8 baf_ac_YE dYI dYO dYU dYV dMV =1400
    aCANADIAN_SYLLABICS_qd cE cAAI cI cII cO cOO cqu_OO cnx_EE dI cA cAA cWE cbh_WE cWI cbh_WI cWII
    cbh_WII cWO cbh_WO cWOO cbh_WOO cpe_WOO cWA cbh_WA cWAA cbh_WAA cpe_WAA cAI cqu_W cgr_gg cat_de
    dei dhb_dj_el dsg_dj_el dak_dj_el del dan_de efw_ap_STROKES dbd_dc dfw_au_av ddb ddi_ll cEN cIN
    cON cAN cPE cPAAI cPI cPII cPO cPOO cqu_POO cnx_HEE dHI cPA cPAA cPWE cbh_PWE cPWI cbh_PWI
    cPWII cbh_PWII cPWO cbh_PWO cPWOO cbh_PWOO cPWA cbh_PWA cPWAA cbh_PWAA cqu_PWAA cP cbh_P cnx_H
    cTE cTAAI cTI cTII cTO cTOO cqu_TOO cnx_DEE dDI cTA cTAA cTWE cbh_TWE cTWI cbh_TWI cTWII
    cbh_TWII ccn cbh_cn cTWOO cbh_TWOO cTWA cbh_TWA cTWAA cbh_TWAA cpe_TWAA cT cTTE cTTI cTTO cpj
    cKE cKAAI cKI cKII cKO cKOO cqu_KOO cKA cKAA cKWE cbh_KWE cKWI cbh_KWI cKWII cbh_KWII cKWO
    cbh_KWO cKWOO cbh_KWOO cKWA cbh_KWA cKWAA cbh_KWAA cpe_KWAA cK cKW cSOUTH-SLAVEY_KEH dKIH dKOH
    dKAH cCE cCAAI cCI cCII cCO cCOO cqu_COO cCA cCAA cCWE cbh_CWE cCWI cbh_CWI cCWII cbh_CWII cCWO
    cbh_CWO cCWOO cbh_CWOO cCWA cbh_CWA cCWAA cbh_CWAA cpe_CWAA cC cvm_TH cME cMAAI cMI cMII cMO
    cMOO cqu_MOO cMA cMAA cMWE cbh_MWE cMWI cbh_MWI cMWII cbh_MWII cMWO cbh_MWO cMWOO cbh_MWOO cMWA
    cbh_MWA cMWAA cbh_MWAA cpe_MWAA cM cbh_M cMH cATHAPASCAN_M cvm_M cNE cNAAI cNI cNII cNO cNOO
    cqu_NOO cNA cNAA cNWE cbh_NWE cNWA cbh_NWA cNWAA cbh_NWAA cpe_NWAA cN cnx_NG cNH cLE cLAAI cLI
    cLII cLO cLOO cqu_LOO cLA cLAA cLWE cbh_LWE cLWI cbh_LWI cLWII cbh_LWII cLWO cbh_LWO cLWOO
    cbh_LWOO cLWA cbh_LWA cLWAA cbh_LWAA cL cbh_L cch_L cSE cSAAI cSI cSII cSO cSOO cqu_SOO cSA
    cSAA cSWE cbh_SWE cSWI cbh_SWI cSWII cbh_SWII cSWO cbh_SWO cSWOO cbh_SWOO cSWA cbh_SWA cSWAA
    cbh_SWAA cpe_SWAA cS cATHAPASCAN_S cSW cBLACKFOOT_S cMOOSE-CREE_SK cpe_SKW dS-W dSPWA dSTWA
    dSKWA dSCWA cwk cSHI cSHII cSHO cSHOO ckx cSHAA cSHWE cbh_SHWE cSHWI cbh_SHWI cSHWII cbh_SHWII
    cSHWO cbh_SHWO cSHWOO cbh_SHWOO cSHWA cbh_SHWA cSHWAA cbh_SHWAA cSH cYE cYAAI cYI cYII cYO cYOO
    cqu_YOO cYA cYAA cYWE cbh_YWE cYWI cbh_YWI cYWII cbh_YWII cYWO cbh_YWO cYWOO cbh_YWOO cYWA
    cbh_YWA cYWAA cbh_YWAA cpe_YWAA cY cBIBLE-CREE_Y cbh_Y cvm_YI cRE cR-CREE_RE cbh_LE cRAAI cRI
    cRII cRO cROO cbh_LO cRA cRAA cbh_LA cRWAA cbh_RWAA cR cbh_R cch_R cFE cFAAI cFI cFII cFO cFOO
    cFA cFAA cFWAA cbh_FWAA cF cua cN-CREE_ua cTHI cN-CREE_THI cTHII cN-CREE_THII cTHO cTHOO cml
    cTHAA cTHWAA cbh_THWAA cTH cTTHE cTTHI cTTHO ckb cTTH cTYE cTYI cTYO cTYA cNUNAVIK_HE dHI dHII
    dHO dHOO dHA dHAA dH cNUNAVUT_H cHK cQAAI cQI cQII cQO cQOO cQA cQAA cQ cTLHE cTLHI cTLHO cTLHA
    cbh_RE dRI dRO dRA cNGAAI cNGI cNGII cNGO cNGOO ckt cNGAA cNG cNNG cvm_wk dSHI dSHO dkx
    cWOODS-CREE_ua dTHI dTHO dml dTH cLHI cLHII cLHO cLHOO cLHA cLHAA cLH cTH-CREE_ua dTHI dTHII
    dTHO dTHOO dml dTHAA dTH cAIVILIK_B cBLACKFOOT_E dI dO dA dWE dWI dWO dWA dNE dNI dNO dNA dKE
    dKI dKO dKA cvm_HE dHI dHO dHA cnx_GHU dGHO dGHE dGHEE dGHI dpm dRU dRO dRE dREE dRI dRA dWU
    dWO dWE dWEE dWI dWA dHWU dHWO dHWE dHWEE dHWI dHWA dTHU dTHO dua dTHEE dTHI dml dTTU dTTO dTTE
    dTTEE dTTI dpj dPU dPO dPE dPEE dPI dPA dP dGU dGO dGE dGEE dGI dGA dKHU dKHO dKHE dKHEE dKHI
    dlu dKKU dKKO dKKE dKKEE dKKI dKKA dKK dNU dNO dNE dNEE dNI dNA dMU dMO dME dMEE dMI dMA dYU
    dYO dYE dYEE dYI dYA dJU cvm_JU cnx_JO dJE dJEE dJI cvm_JI cnx_JA dJJU dJJO dJJE dJJEE dJJI
    dJJA dLU dLO dLE dLEE dLI dLA dDLU dDLO dDLE dDLEE dDLI dDLA dLHU dLHO dLHE dLHEE dLHI dLHA
    dTLHU dTLHO dTLHE dTLHEE dTLHI dTLHA dTLU dTLO dTLE dTLEE dTLI dTLA dZU dZO dZE dZEE dZI dZA dZ
    dar_Z dDZU dDZO dDZE dDZEE dDZI dDZA dSU dSO dSE dSEE dSI dSA dSHU dSHO dwk dSHEE dSHI dkx dSH
    dTSU dTSO dTSE dTSEE dTSI dzy dCHU dCHO dCHE dCHEE dCHI dlm dTTSU dTTSO dTTSE dTTSEE dTTSI
    dTTSA cCHI_am cii_gg cQAI cNGAI cNNGI cNNGII cNNGO cNNGOO cNNGA cNNGAA cWOODS-CREE_THWEE dTHWI
    dTHWII dTHWO dTHWOO dTHWA dTHWAA dat_TH cBLACKFOOT_W aOGHAM_lr_bl bac_BEITH cLUIS cFEARN cSAIL
    cNION cUATH cDAIR cTINNE cCOLL cCEIRT cMUIN cGORT cNGEADAL cSTRAIF cRUIS cAILM cONN cUR
    cEADHADH cIODHADH cEABHADH cOR cUILLEANN cIFIN cEAMHANCHOLL cPEITH bFEATHER_bl bbs_FEATHER_bl
    =16A0 aRUNIC_ac_FEHU_FEOH_FE_F cV cURUZ_UR_U cYR cY cW cTHURISAZ_THURS_THORN cETH cANSUZ_A
    cOS_O cAC_A cAESC cLONG-BRANCH-OSS_O cSHORT-TWIG-OSS_O cO cOE cON cRAIDO_RAD_REID_R cKAUNA cCEN
    cKAUN_K cG cENG cGEBO_GYFU_G cGAR cWUNJO_WYNN_W cHAGLAZ_H cHAEGL_H cLONG-BRANCH-HAGALL_H
    cSHORT-TWIG-HAGALL_H cNAUDIZ_NYD_NAUD_N cSHORT-TWIG-NAUD_N cDOTTED-N cISAZ_IS_ISS_I cE cJERAN_J
    cGER cLONG-BRANCH-AR_AE cSHORT-TWIG-AR_A cIWAZ_EOH cPERTHO_PEORTH_P cALGIZ_EOLHX cSOWILO_S
    cSIGEL_LONG-BRANCH-SOL_S cSHORT-TWIG-SOL_S cC cZ cTIWAZ_TIR_TYR_T cSHORT-TWIG-TYR_T cD
    cBERKANAN_BEORC_BJARKAN_B cSHORT-TWIG-BJARKAN_B cDOTTED-P cOPEN-P cEHWAZ_EH_E cMANNAZ_MAN_M
    cLONG-BRANCH-MADR_M cSHORT-TWIG-MADR_M cLAUKAZ_LAGU_LOGR_L cDOTTED-L cINGWAZ cING cDAGAZ_DAEG_D
    cOTHALAN_ETHEL_O cEAR cIOR cCWEORTH cCALC cCEALC cSTAN cLONG-BRANCH-YR cSHORT-TWIG-YR
    cICELANDIC-YR cQ cX bcy_ce bkh_ce bgu_ce bARLAUG_aw bTVIMADUR_aw bBELGTHOR_aw bac_K cSH cOO
    cFRANKS_CASKET_OS eIS eEH eAC eAESC =1700 aTAGALOG_ac_A cI cU cKA cGA ckt cTA cDA cNA cPA cBA
    cMA cYA cRA cLA cWA cSA cHA bcp_am_I dU bam_fo cPAMUDPOD =171F bac_jb_RA aHANUNOO_ac_A cI cU
    cKA cGA ckt cTA cDA cNA cPA cBA cMA cYA cRA cLA cWA cSA cHA bcp_am_I dU bam_PAMUDPOD
    aPHILIPPINE_cy_ce ban_ce =1740 aBUHID_ac_A cI cU cKA cGA ckt cTA cDA cNA cPA cBA cMA cYA cRA
    cLA cWA cSA cHA bcp_am_I dU =1760 aTAGBANWA_ac_A cI cU cKA cGA ckt cTA cDA cNA cPA cBA cMA cYA
    =176E cLA cWA cSA =1772 bcp_am_I dU =1780 aKHMER_ac_KA clu cKO cKHO cNGO cCA clm cCO cCHO cNYO
    cDA ckb cDO cTTHO cNNO cTA cml cTO cTHO cNO cBA coa cPO cPHO cMO cYO cRO cLO cVO ckx cSSO cSA
    cHA cLA cQA bla_cp_QAQ dQAA dQI dQII dQU dQUK dQUU dQUUV dRY dRYY dLY dLYY dQE dQAI
    dQOO_TYPE_cu fcn dQAU bcp_INHERENT_AQ dAA cam_AA dI dII dY dYY dU dUU dUA dOE dYA dIE dE dAE
    dAI dOO dAU bam_NIKAHIT cREAHMUK cYUUKALEAPINTU cMUUSIKATOAN cTRIISAP cBANTOC cROBAT
    cTOANDAKHIAT cKAKABAT cAHSDA cSAMYOK_SANNYA cVIRIAM cCOENG cBATHAMASAT cKHAN cBARIYOOSAN
    cCAMNUC_PII_KUUH cLEK_TOO cBEYYAL cPHNAEK_MUAN cKOOMUUT bym_aw_RIEL bam_AVAKRAHASANYA cATTHACAN
    =17E0 bct_fb ccu ccn cay cbv cca cga cbx cbt cdo =17F0 baw_LEK_ATTAK_SON eMUOY ePII eBEI eBUON
    ePRAM ePRAM-MUOY ePRAM-PII ePRAM-BEI ePRAM-BUON =1800 aMONGOLIAN_yf bpx bew bii_gg biv bbv_dw
    bTODO_SOFT_qd bSIBE_il_BOUNDARY_xl bMANCHU_ew cii_gg bNIRUGU bFREE_wg_SELECTOR_cu ecn eay
    bcp_ee bFREE_wg_SELECTOR_bv bct_fb ccu ccn cay cbv cca cga cbx cbt cdo =1820 bac_A cE cI cO cU
    cOE cUE cEE cNA cANG cBA cPA cQA cGA cMA cLA cSA ckx cTA cDA clm cJA cYA cRA cWA cFA cKA clu
    czy cZA cHAA cZRA cLHA cZHI cCHI cTODO_fm_cp_am dE dI dO dU dOE dUE dANG dBA dPA dQA dGA dMA
    dTA dDA dlm dJA dzy dYA dWA dKA dGAA dHAA dJIA dNIA dDZA cSIBE_E dI dIY dUE dU dANG dKA dGA dHA
    dPA dkx dTA dDA dJA dFA dGAA dHAA dzy dZA dRAA dlm dZHA cMANCHU_I dKA dRA dFA dZHA clm_ad_cn_dw
    =1880 cALI_GALI_cv_cu efa_cu eDAMARU eUBADAMA ecc_UBADAMA eBALUDA eay_BALUDA eA eI eKA ekt eCA
    epj ekb epl ere eTA eDA ePA eoa esj eZHA eZA eAH cTODO_ALI_GALI_TA fZHA cMANCHU_ALI_GALI_pm fkt
    fCA fuv fpj fke fTA fpt fsj fCYA fZHA fZA cALI_GALI_dj_U fYA cMANCHU_ALI_GALI_rj
    cALI_GALI_DAGALGA cMANCHU_ALI_GALI_LHA =18B0 aCANADIAN_SYLLABICS_OY cAY cAAY cWAY cPOY cPAY
    cPWOY cTAY cKAY cKWAY cMAY cNOY cNAY cLAY cSOY cSAY cSHOY cSHAY cSHWOY cYOY cYAY cRAY cNWI
    cOJIBWAY_NWI cNWII cOJIBWAY_NWII cNWO cOJIBWAY_NWO cNWOO cOJIBWAY_NWOO cRWEE cRWI cRWII cRWO
    cRWOO cRWA cOJIBWAY_P dT dK dC dM dN dS dSH cEASTERN_W cWESTERN_W cat_af_el dij_dc cR-CREE_RWE
    cbh_LOO dLAA cTHWE cTHWA cTTHWE cTTHOO cTTHAA cTLHWE cTLHOO cvm_SHWE dSHOO dHOO cnx_GWU
    dDENE_GEE dGAA dGWA cvm_JUU cnx_JWA cBEAVER_DENE_L eR cnx_DENTAL_S =1900
    aLIMBU_VOWEL-CARRIER_ac bac_KA clu cGA cpm ckt cCA clm cJA cuv cYAN cTA cml cDA cpt cNA cPA coa
    cBA crj cMA cYA cRA cLA cWA ckx csj cSA cHA cGYAN cTRA =1920 bcp_am_A dI dU dEE dAI dOO dAU dE
    dO bsf_ac_YA dRA dWA =1930 baf_ac_KA dkt dcv dTA dNA dPA dMA dRA dLA bam_MUKPHRENG cKEMPHRENG
    cSA-I =1940 cLOO =1944 bdy_bl bff_bl bct_fb ccu ccn cay cbv cca cga cbx cbt cdo aTAI_LE_ac_KA
    dXA dkt dzy dSA dYA dTA dml dLA dPA doa dMA dFA dVA dHA dQA dlu dzz dNA dA dI dEE dEH dU dOO dO
    dUE dE dAUE dAI =1970 dtm dvs dTONE-4 dtn dTONE-6 =1980 aNEW_TAI_LUE_ac_fy_QA eiy_QA efy_KA fXA
    fkt eiy_KA fXA fkt efy_zy fSA fYA eiy_zy fSA fYA efy_TA fml fNA eiy_TA fml fNA efy_PA foa fMA
    eiy_PA foa fMA efy_FA fVA fLA eiy_FA fVA fLA efy_HA fDA fBA eiy_HA fDA fBA efy_KVA fXVA eiy_KVA
    fXVA efy_SUA eiy_SUA =19B0 dcp_am_cp_SHORTENER fAA fII fU fUU fE fAE fO fOA fUE fAY fAAY fUY
    fOY fOAY fUEY fIY dac_at_V fNG fN fM fK fD fB dfq_MARK-1 eMARK-2 =19D0 dct_fb ecu ecn eay ebv
    eca ega ebx ebt edo dTHAM_ct_cu =19DE dam_LAE eLAEV aKHMER_aw_PATHAMASAT cMUOY_ze cPII_ze
    cBEI_ze cBUON_ze cPRAM_ze cPRAM-MUOY_ze cPRAM-PII_ze cPRAM-BEI_ze cPRAM-BUON_ze cDAP_ze
    cDAP-MUOY_ze cDAP-PII_ze cDAP-BEI_ze cDAP-BUON_ze cDAP-PRAM_ze cTUTEYASAT cMUOY_ROC cPII_ROC
    cBEI_ROC cBUON_ROC cPRAM_ROC cPRAM-MUOY_ROC cPRAM-PII_ROC cPRAM-BEI_ROC cPRAM-BUON_ROC cDAP_ROC
    cDAP-MUOY_ROC cDAP-PII_ROC cDAP-BEI_ROC cDAP-BUON_ROC cDAP-PRAM_ROC aBUGINESE_ac_KA cGA ckt
    cNGKA cPA cBA cMA cMPA cTA cDA cNA cNRA cCA cJA clp cNYCA cYA cRA cLA cVA cSA cA cHA bcp_am_I
    dU dE dO dAE =1A1E bPALLAWA buc_OF_hk aTAI_THAM_ac_fy_KA elu eKXA diy_KA eKXA elu dkt dfy_CA
    elm diy_CA eSA elm dlp dRATA dfy_RATHA dDA diy_RATHA dRANA dfy_TA eml diy_TA eml dNA dBA dfy_PA
    eoa eFA diy_PA eFA eoa dMA diy_YA dfy_YA dRA dRUE dLA dLUE dWA dfy_kx esj eSA eHA dLLA dA
    diy_HA dI dII dU dUU dEE dOO dLAE dGREAT_SA cfs_am_ch_RA fLA eLA_TANG_LAI cam_MAI_KANG_LAI
    cfs_am_at_kt eiy_PA efy_RATHA_OR_iy_PA eMA eBA eSA =1A60 cam_SAKOT ccp_am_A eMAI_SAT eAA
    eTALL_AA eI eII eUE eUUE eU eUU eO eOA_as eOY eE eAE eOO eAI eTHAM_AI eOA_al cam_MAI_KANG
    dTONE-1 dtm dKHUEN_vs eTONE-4 etn dRA_HAAM dMAI_SAM dKHUEN-LUE_KARAN =1A7F cdl_iq_dc
    cHORA_ct_fb ecu ecn eay ebv eca ega ebx ebt edo =1A90 cTHAM_ct_fb ecu ecn eay ebv eca ega ebx
    ebt edo =1AA0 cam_WIANG dWIANGWAAK dSAWAN dKEOW dHOY dDOKMAI dbs_cr_RANA dMAI_YAMOK dKAAN
    dKAANKUU dSATKAAN dSATKAANKUU dHANG dCAANG =1AB0 adl_DOUBLED_bg_fv bDIAERESIS-RING buu bba_ag
    bev_dc bX-X_as bWIGGLY_ge_as bfj_bl_as ban_fj_bl_as bco_pr_av_as bSTRONG_pr_av_as
    bPARENTHESES_al ban_PARENTHESES_al bPARENTHESES_as chq bfu_af_ac_W_as ecj_W_as bax_cf_al_ax
    bak_cf_al_ak bax_cf_as_ax bak_cf_as_ak bbp_BRACKETS_al bds_am_al bcc_an_ARCH_al bdb_am_al
    ban_db_am_al eas bev_de_fv bfu_af_ac_jj_G fR fT =1B00 aBALINESE_am_ULU_RICEM dmn cCECEK cSURANG
    cBISAH bac_AKARA dqs cIKARA dqs cUKARA dqs cRA_REPA eqs cLA_LENGA eqs cEKARA cAIKARA cOKARA dqs
    cKA dnn cGA dGORA ckt cCA dLACA cJA dJERA clp cTA_LATIK dwq_nn cDA_wq_ALPAPRANA enn cNA_RAMBAT
    cTA dTAWA cDA dMADU cNA cPA dKAPAL cBA dKEMBANG cMA cYA cRA cLA cWA cSA_SAGA dSAPA d cHA
    bam_REREKAN bcp_am_qs dULU eSARI dSUKU eILUT dRA_REPA fqs dLA_LENGA fqs dTALING eREPA eqs
    eREPA_qs dPEPET eqs bADEG_ADEG bac_zb_SASAK cKHOT_SASAK cTZIR_SASAK cEF_SASAK cVE_SASAK
    cZAL_SASAK cASYURA_SASAK cjb_JNYA =1B50 bct_fb ccu ccn cay cbv cca cga cbx cbt cdo bPANTI
    bPAMADA bWINDU bCARIK_PAMUNGKAH cSIKI cPAREREN bPAMENENG blx_aw_DONG dDENG dDUNG dDANG eSURANG
    dDING dDAENG dDEUNG dDAING dDANG_GEDE ddl_TEGEH eENDEP eKEMPUL eKEMPLI eJEGOGAN
    eKEMPUL_ad_JEGOGAN eKEMPLI_ad_JEGOGAN eBENDE eGONG dRIGHT-HAND_fj_DUG fDAG ego_TUK fTAK
    dLEFT-HAND_fj_PANG fPUNG ego_PLAK fPLUK efj_PING bPANTI_LANTANG bPAMADA_LANTANG =1B80
    aSUNDANESE_am_PANYECEK cPANGLAYAR cPANGWISAD bac_A cI cU cAE cO cE cEU cKA cQA cGA ckt cCA cJA
    cZA clp cTA cDA cNA cPA cFA cVA cBA cMA cYA cRA cLA cWA cSA cXA cHA bfs_am_PAMINGKAL dPANYAKRA
    dPANYIKU bcp_am_PANGHULU dPANYUKU dPANAELAENG dPANOLONG dPAMEPET dPANEULEUNG bam_PAMAAEH cfo
    bfs_am_PASANGAN_MA eWA bac_lu cSYA bct_fb ccu ccn cay cbv cca cga cbx cbt cdo bit bac_REU cLEU
    crj cat_K dM aBATAK_ac_A cjo_A cHA cjo_HA cMANDAILING_HA cBA cKARO_BA cPA cjo_PA cNA
    cMANDAILING_NA cWA cjo_WA cPAKPAK_WA cGA cjo_GA cJA cDA cRA cjo_RA cMA cjo_MA cSOUTHERN_TA
    cNORTHERN_TA cSA cjo_SA cMANDAILING_SA cYA cjo_YA ckt cLA cjo_LA clp cCA cNDA cMBA cI cU
    bam_TOMPI bcp_am_E dPAKPAK_E dEE dI dKARO_I dO dKARO_O dU etq_jo_SA bfs_am_NG dH bPANGOLAT
    bPANONGONAN =1BFC baw_BINDU_NA_METEK dPINARBORAS dJUDUL dPANGOLAT aLEPCHA_ac_KA cKLA clu cGA
    cGLA ckt cCA clm cJA clp cTA cml cDA cNA cPA cPLA coa cFA cFLA cBA cBLA cMA cMLA czy czz cDZA
    cYA cRA cLA cHA cHLA cVA cSA ckx cWA cA bsf_ac_YA dRA bcp_am_AA dI dO dOO dU dUU dE bfs_am_K dM
    dL dN dP dR dT dNYIN-DO dKANG bam_RAN cku =1C3B bce_TA-ROL cNYET_THYOOM_TA-ROL cCER-WA
    cTSHOOK_CER-WA d bct_fb ccu ccn cay cbv cca cga cbx cbt cdo =1C4D bac_pj ckb cpl
    aOL_CHIKI_ct_fb dcu dcn day dbv dca dga dbx dbt ddo cac_LA dAT dAG dANG dAL dLAA dAAK dAAJ dAAM
    dAAW dLI dIS dIH dINY dIR dLU dUC dUD dUNN dUY dLE dEP dEDD dEN dERR dLO dOTT dOB dOV dOH
    cMU_TTUDDAG cGAAHLAA_TTUDDAAG cMU-GAAHLAA_TTUDDAAG cRELAA cPHAARKAA cAHAD cce_MUCAAD dan_MUCAAD
    ajv_af_ac_pg_VE dLONG-LEGGED_DE dNARROW_O dWIDE_ES dTALL_TE dTHREE-LEGGED_TE dTALL_HARD_am eYAT
    dUNBLENDED_UK =1C90 ayv_MTAVRULI_ae_ac_AN eBAN eGAN eDON eEN eVIN eZEN eTAN eIN eKAN eLAS eMAN
    eNAR eON ePAR eZHAR eRAE eSAN eTAR eUN ePHAR eKHAR eGHAN eQAR emz eCHIN eCAN eJIL eCIL eCHAR
    eXAN eJHAN eHAE eHE eHIE eWE eHAR eHOE eFI eYN eELIFI ecj_GAN ewl =1CBD eAEN eHARD_am
    eLABIAL_am aSUNDANESE_ce_BINDU_SURYA dPANGLONG dPURNAMA dCAKRA dLEU_SATANGA dKA_SATANGA
    dDA_SATANGA dBA_SATANGA =1CD0 aVEDIC_fq_KARSHANA cSHARA cPRENKHA bam_NIHSHVASA
    cYAJURVEDIC_MIDLINE_pi bfq_YAJURVEDIC_AGGRAVATED_la_pi dla_pi dKATHAKA_la_pi cmn_as
    cYAJURVEDIC_KATHAKA_la_pi_SCHROEDER can_pi cev_pi cKATHAKA_yc cdc_as ccn_dw_as cay_dw_as
    cRIGVEDIC_KASHMIRI_la_pi cATHARVAVEDIC_la_pi bam_fa_pi dUDATTA cbs_fa_UDATTA cfa_yc cbs_fa_yc
    cfa_UDATTA_ad_ia dyc_ad_ia ccv_ANTARGOMUKHA dBAHIRGOMUKHA dVAMAGOMUKHA ead_ia cTIRYAK
    cHEXIFORM_fm_cv cfm_cv cRTHANG_fm_cv ccv_UBHAYATO_MUKHA cARDHAVISARGA ccr_ARDHAVISARGA
    bfq_mn_al bam_oi coq cATIKRAMA bfq_el_al can_el_al bam_an_cv_ANTARGOMUKHA =1D00 afu_ac_af_ae_A
    eAE baf_ac_cj_AE bac_af_ae_sk_B eC eD eETH eE baf_ac_cj_fj_E eI bac_af_ae_J eK eL_ad_av eM
    ebs_N eO efj_O baf_ac_oo_O efj_O eO_ad_av dcj_OE bac_af_ae_OU baf_ac_sg_dj_O dhb_dj_O
    bac_af_ae_P ebs_R ecj_R eT eU baf_ac_oo_U eDIAERESIZED_U ecj_M bac_af_ae_V eW eZ eEZH
    ctp_LARYNGEAL_SPIRANT cwl akr_ac_af_ae_ln esa ePI eRHO ePSI ajv_ac_af_ae_EL aez_ac_ae_A dAE dB
    dsk_B dD dE dbs_E dG dH dI dJ dK dL dM dN dbs_N dO dOU dP dR dT dU dW caf_A dcj_A dip dcj_AE dB
    dD dE dzu dfj_E dcj_fj_E dG dcj_I dK dM dENG dO dfj_O dsg_dj_O dhb_dj_O dP dT dU doo_U dcj_M dV
    dwl dtx dkr_ln dmo dkr_PHI dCHI afu_po_af_ac_I eR eU eV akr_po_af_ac_tx eln eRHO ePHI eCHI
    afu_af_ac_UE dB_ad_bd_cs dD_ad_bd_cs dF_ad_bd_cs dM_ad_bd_cs dN_ad_bd_cs dP_ad_bd_cs
    dR_ad_bd_cs fry_bk_bd_cs dS_ad_bd_cs dT_ad_bd_cs dZ_ad_bd_cs dcj_G aez_ac_jv_EN afu_af_ac_jj_G
    dTH_ad_STRIKETHROUGH cae_ac_I_ad_av cac_mk_ad_av dP_ad_av cae_ac_U_ad_av cac_gs_ad_av
    dB_ad_gj_by dD_ad_gj_by dF_ad_gj_by dG_ad_gj_by dK_ad_gj_by dL_ad_gj_by dM_ad_gj_by dN_ad_gj_by
    dP_ad_gj_by dR_ad_gj_by dS_ad_gj_by dESH_ad_gj_by dV_ad_gj_by dX_ad_gj_by dZ_ad_gj_by
    dA_ad_da_by dip_ad_da_by dD_ad_by_bk_ia dE_ad_da_by dfj_E_ad_da_by dbs_fj_E_ad_da_by
    dzu_ad_da_by dI_ad_da_by dfj_O_ad_da_by dESH_ad_da_by dU_ad_da_by dEZH_ad_da_by aez_ac_af_cj_ip
    dC ead_rk dETH dbs_fj_E dF dlf_J_ad_av dio_G dcj_H dI_ad_av dmk dae_I fad_av dJ_ad_jg
    dL_ad_da_by fgj_by dae_L dM_ad_by dcj_M_ad_fm_LEG dN_ad_ax_by fda_by dae_N dsk_O dPHI dS_ad_by
    dESH dT_ad_gj_by dU_gh dgs dae_U dV_ad_by dcj_V dZ ead_da_by frk dEZH dkw adl_gb_ei_fv cde_fv
    bSNAKE_as bSUSPENSION_bl bMACRON-ACUTE bGRAVE-MACRON bMACRON-GRAVE bACUTE-MACRON
    bGRAVE-ACUTE-GRAVE bACUTE-GRAVE-ACUTE bfu_af_ac_R_as bBREVE-MACRON bMACRON-BREVE ban_bg_al
    bmx_al bya_as bIS_as bUR_al bUS_al bfu_af_ac_FLATTENED_fj_A_al eAE eAO eAV eC_gi ejj_D eETH eG
    cac_af_ae_G caf_ac_K eL cac_af_ae_L fM caf_ac_N cac_af_ae_N fR caf_ac_R_ROTUNDA eS efm_S eZ eip
    eB etx ezu eF eL_ad_an_bd_cs eO_ad_co_pr_av eP eESH eU_ad_co_pr_av eW eA_ad_bm eO_ad_bm
    eU_ad_bm bUP_ll_al bKAVYKA_al_ak dax bdc_al_ax bWIDE_cc_BRIDGE_as bdc_as_ax bDELETION_bl
    ban_cc_fi_as bma_cm_TO_as bax_bo_al bak_bo_bk_di_bo_as afu_ae_ac_A_ad_el_as baf_ac_A_ad_el_as
    bae_ac_B_ad_dc_al baf_ac_B_ad_dc_al bae_ac_B_ad_dc_as baf_ac_B_ad_dc_as bae_ac_B_ad_ge_as
    baf_ac_B_ad_ge_as bae_ac_C_ad_gi_bk_de baf_ac_C_ad_gi_bk_de bae_ac_D_ad_dc_al baf_ac_D_ad_dc_al
    bae_ac_D_ad_dc_as baf_ac_D_ad_dc_as bae_ac_D_ad_ge_as baf_ac_D_ad_ge_as bae_ac_D_ad_gi
    baf_ac_D_ad_gi bae_ac_D_ad_bg_as baf_ac_D_ad_bg_as bae_ac_E_ad_dr_bk_ei baf_ac_E_ad_dr_bk_ei
    bae_ac_E_ad_dr_bk_de baf_ac_E_ad_dr_bk_de bae_ac_E_ad_bg_as baf_ac_E_ad_bg_as bae_ac_E_ad_cs_as
    baf_ac_E_ad_cs_as bae_ac_E_ad_gi_bk_fi baf_ac_E_ad_gi_bk_fi bae_ac_F_ad_dc_al baf_ac_F_ad_dc_al
    bae_ac_G_ad_dr baf_ac_G_ad_dr bae_ac_H_ad_dc_al baf_ac_H_ad_dc_al bae_ac_H_ad_dc_as
    baf_ac_H_ad_dc_as bae_ac_H_ad_bm baf_ac_H_ad_bm bae_ac_H_ad_gi baf_ac_H_ad_gi bae_ac_H_ad_fi_as
    baf_ac_H_ad_fi_as bae_ac_I_ad_cs_as baf_ac_I_ad_cs_as bae_ac_I_ad_bm_bk_de baf_ac_I_ad_bm_bk_de
    bae_ac_K_ad_de baf_ac_K_ad_de bae_ac_K_ad_dc_as baf_ac_K_ad_dc_as bae_ac_K_ad_ge_as
    baf_ac_K_ad_ge_as bae_ac_L_ad_dc_as baf_ac_L_ad_dc_as bae_ac_L_ad_dc_as_bk_dr
    baf_ac_L_ad_dc_as_bk_dr bae_ac_L_ad_ge_as baf_ac_L_ad_ge_as bae_ac_L_ad_bg_as baf_ac_L_ad_bg_as
    bae_ac_M_ad_de baf_ac_M_ad_de bae_ac_M_ad_dc_al baf_ac_M_ad_dc_al bae_ac_M_ad_dc_as
    baf_ac_M_ad_dc_as bae_ac_N_ad_dc_al baf_ac_N_ad_dc_al bae_ac_N_ad_dc_as baf_ac_N_ad_dc_as
    bae_ac_N_ad_ge_as baf_ac_N_ad_ge_as bae_ac_N_ad_bg_as baf_ac_N_ad_bg_as bae_ac_O_ad_cs_bk_de
    baf_ac_O_ad_cs_bk_de bae_ac_O_ad_cs_bk_bm baf_ac_O_ad_cs_bk_bm bae_ac_O_ad_dr_bk_ei
    baf_ac_O_ad_dr_bk_ei bae_ac_O_ad_dr_bk_de baf_ac_O_ad_dr_bk_de bae_ac_P_ad_de baf_ac_P_ad_de
    bae_ac_P_ad_dc_al baf_ac_P_ad_dc_al bae_ac_R_ad_dc_al baf_ac_R_ad_dc_al bae_ac_R_ad_dc_as
    baf_ac_R_ad_dc_as bae_ac_R_ad_dc_as_bk_dr baf_ac_R_ad_dc_as_bk_dr bae_ac_R_ad_ge_as
    baf_ac_R_ad_ge_as bae_ac_S_ad_dc_al baf_ac_S_ad_dc_al bae_ac_S_ad_dc_as baf_ac_S_ad_dc_as
    bae_ac_S_ad_de_bk_dc_al baf_ac_S_ad_de_bk_dc_al bae_ac_S_ad_gv_bk_dc_al baf_ac_S_ad_gv_bk_dc_al
    bae_ac_S_ad_dc_as_bk_dc_al baf_ac_S_ad_dc_as_bk_dc_al bae_ac_T_ad_dc_al baf_ac_T_ad_dc_al
    bae_ac_T_ad_dc_as baf_ac_T_ad_dc_as bae_ac_T_ad_ge_as baf_ac_T_ad_ge_as bae_ac_T_ad_bg_as
    baf_ac_T_ad_bg_as bae_ac_U_ad_bm_as baf_ac_U_ad_bm_as bae_ac_U_ad_cs_as baf_ac_U_ad_cs_as
    bae_ac_U_ad_bg_as baf_ac_U_ad_bg_as bae_ac_U_ad_cs_bk_de baf_ac_U_ad_cs_bk_de
    bae_ac_U_ad_dr_bk_bm baf_ac_U_ad_dr_bk_bm bae_ac_V_ad_cs baf_ac_V_ad_cs bae_ac_V_ad_dc_as
    baf_ac_V_ad_dc_as bae_ac_W_ad_ei baf_ac_W_ad_ei bae_ac_W_ad_de baf_ac_W_ad_de bae_ac_W_ad_bm
    baf_ac_W_ad_bm bae_ac_W_ad_dc_al baf_ac_W_ad_dc_al bae_ac_W_ad_dc_as baf_ac_W_ad_dc_as
    bae_ac_X_ad_dc_al baf_ac_X_ad_dc_al bae_ac_X_ad_bm baf_ac_X_ad_bm bae_ac_Y_ad_dc_al
    baf_ac_Y_ad_dc_al bae_ac_Z_ad_bg baf_ac_Z_ad_bg bae_ac_Z_ad_dc_as baf_ac_Z_ad_dc_as
    bae_ac_Z_ad_ge_as baf_ac_Z_ad_ge_as dH_ad_ge_as dT_ad_bm dW_ad_el_al dY_ad_el_al dA_ad_ak_dj_el
    dfm_S_ad_dc_al gdn_av gfy_av bae_ac_SHARP_S baf_ac_mo bae_ac_A_ad_dc_as baf_ac_A_ad_dc_as
    bae_ac_A_ad_by_al baf_ac_A_ad_by_al bae_ac_A_ad_bg_bk_de baf_ac_A_ad_bg_bk_de
    bae_ac_A_ad_bg_bk_ei baf_ac_A_ad_bg_bk_ei bae_ac_A_ad_bg_bk_by_al baf_ac_A_ad_bg_bk_by_al
    bae_ac_A_ad_bg_bk_cs baf_ac_A_ad_bg_bk_cs bae_ac_A_ad_bg_bk_dc_as baf_ac_A_ad_bg_bk_dc_as
    bae_ac_A_ad_fi_bk_de baf_ac_A_ad_fi_bk_de bae_ac_A_ad_fi_bk_ei baf_ac_A_ad_fi_bk_ei
    bae_ac_A_ad_fi_bk_by_al baf_ac_A_ad_fi_bk_by_al bae_ac_A_ad_fi_bk_cs baf_ac_A_ad_fi_bk_cs
    bae_ac_A_ad_fi_bk_dc_as baf_ac_A_ad_fi_bk_dc_as bae_ac_E_ad_dc_as baf_ac_E_ad_dc_as
    bae_ac_E_ad_by_al baf_ac_E_ad_by_al bae_ac_E_ad_cs baf_ac_E_ad_cs bae_ac_E_ad_bg_bk_de
    baf_ac_E_ad_bg_bk_de bae_ac_E_ad_bg_bk_ei baf_ac_E_ad_bg_bk_ei bae_ac_E_ad_bg_bk_by_al
    baf_ac_E_ad_bg_bk_by_al bae_ac_E_ad_bg_bk_cs baf_ac_E_ad_bg_bk_cs bae_ac_E_ad_bg_bk_dc_as
    baf_ac_E_ad_bg_bk_dc_as bae_ac_I_ad_by_al baf_ac_I_ad_by_al bae_ac_I_ad_dc_as baf_ac_I_ad_dc_as
    bae_ac_O_ad_dc_as baf_ac_O_ad_dc_as bae_ac_O_ad_by_al baf_ac_O_ad_by_al bae_ac_O_ad_bg_bk_de
    baf_ac_O_ad_bg_bk_de bae_ac_O_ad_bg_bk_ei baf_ac_O_ad_bg_bk_ei bae_ac_O_ad_bg_bk_by_al
    baf_ac_O_ad_bg_bk_by_al bae_ac_O_ad_bg_bk_cs baf_ac_O_ad_bg_bk_cs bae_ac_O_ad_bg_bk_dc_as
    baf_ac_O_ad_bg_bk_dc_as bae_ac_O_ad_lk_bk_de baf_ac_O_ad_lk_bk_de bae_ac_O_ad_lk_bk_ei
    baf_ac_O_ad_lk_bk_ei bae_ac_O_ad_lk_bk_by_al baf_ac_O_ad_lk_bk_by_al bae_ac_O_ad_lk_bk_cs
    baf_ac_O_ad_lk_bk_cs bae_ac_O_ad_lk_bk_dc_as baf_ac_O_ad_lk_bk_dc_as bae_ac_U_ad_dc_as
    baf_ac_U_ad_dc_as bae_ac_U_ad_by_al baf_ac_U_ad_by_al bae_ac_U_ad_lk_bk_de baf_ac_U_ad_lk_bk_de
    bae_ac_U_ad_lk_bk_ei baf_ac_U_ad_lk_bk_ei bae_ac_U_ad_lk_bk_by_al baf_ac_U_ad_lk_bk_by_al
    bae_ac_U_ad_lk_bk_cs baf_ac_U_ad_lk_bk_cs bae_ac_U_ad_lk_bk_dc_as baf_ac_U_ad_lk_bk_dc_as
    bae_ac_Y_ad_ei baf_ac_Y_ad_ei bae_ac_Y_ad_dc_as baf_ac_Y_ad_dc_as bae_ac_Y_ad_by_al
    baf_ac_Y_ad_by_al bae_ac_Y_ad_cs baf_ac_Y_ad_cs bae_ac_sy_LL baf_ac_sy_LL bae_ac_sy_V
    baf_ac_sy_V bae_ac_Y_ad_va baf_ac_Y_ad_va akr_af_ac_ip_ad_ea fdx fea_bk_et fdx_bk_et fea_bk_hg
    fdx_bk_hg fea_bk_cb fdx_bk_cb bae_ac_ip_ad_ea fdx fea_bk_et fdx_bk_et fea_bk_hg fdx_bk_hg
    fea_bk_cb fdx_bk_cb baf_ac_gz_ad_ea fdx fea_bk_et fdx_bk_et fea_bk_hg fdx_bk_hg =1F18
    bae_ac_gz_ad_ea fdx fea_bk_et fdx_bk_et fea_bk_hg fdx_bk_hg =1F20 baf_ac_ETA_ad_ea fdx
    fea_bk_et fdx_bk_et fea_bk_hg fdx_bk_hg fea_bk_cb fdx_bk_cb bae_ac_ETA_ad_ea fdx fea_bk_et
    fdx_bk_et fea_bk_hg fdx_bk_hg fea_bk_cb fdx_bk_cb baf_ac_mk_ad_ea fdx fea_bk_et fdx_bk_et
    fea_bk_hg fdx_bk_hg fea_bk_cb fdx_bk_cb bae_ac_mk_ad_ea fdx fea_bk_et fdx_bk_et fea_bk_hg
    fdx_bk_hg fea_bk_cb fdx_bk_cb baf_ac_jl_ad_ea fdx fea_bk_et fdx_bk_et fea_bk_hg fdx_bk_hg =1F48
    bae_ac_jl_ad_ea fdx fea_bk_et fdx_bk_et fea_bk_hg fdx_bk_hg =1F50 baf_ac_gs_ad_ea fdx fea_bk_et
    fdx_bk_et fea_bk_hg fdx_bk_hg fea_bk_cb fdx_bk_cb =1F59 bae_ac_gs_ad_dx =1F5B gbk_et =1F5D hhg
    =1F5F hcb baf_ac_hu_ad_ea fdx fea_bk_et fdx_bk_et fea_bk_hg fdx_bk_hg fea_bk_cb fdx_bk_cb
    bae_ac_hu_ad_ea fdx fea_bk_et fdx_bk_et fea_bk_hg fdx_bk_hg fea_bk_cb fdx_bk_cb baf_ac_ip_ad_et
    fhg dgz_ad_et fhg dETA_ad_et fhg dmk_ad_et fhg djl_ad_et fhg dgs_ad_et fhg dhu_ad_et fhg =1F80
    dip_ad_ea_bk_bz fdx_bk_bz fea_bk_et_bk_bz fdx_bk_et_bk_bz fea_bk_hg_bk_bz fdx_bk_hg_bk_bz
    fea_bk_cb_bk_bz fdx_bk_cb_bk_bz bae_ac_ip_ad_ea_bk_ci fdx_bk_ci fea_bk_et_bk_ci fdx_bk_et_bk_ci
    fea_bk_hg_bk_ci fdx_bk_hg_bk_ci fea_bk_cb_bk_ci fdx_bk_cb_bk_ci baf_ac_ETA_ad_ea_bk_bz
    fdx_bk_bz fea_bk_et_bk_bz fdx_bk_et_bk_bz fea_bk_hg_bk_bz fdx_bk_hg_bk_bz fea_bk_cb_bk_bz
    fdx_bk_cb_bk_bz bae_ac_ETA_ad_ea_bk_ci fdx_bk_ci fea_bk_et_bk_ci fdx_bk_et_bk_ci
    fea_bk_hg_bk_ci fdx_bk_hg_bk_ci fea_bk_cb_bk_ci fdx_bk_cb_bk_ci baf_ac_hu_ad_ea_bk_bz fdx_bk_bz
    fea_bk_et_bk_bz fdx_bk_et_bk_bz fea_bk_hg_bk_bz fdx_bk_hg_bk_bz fea_bk_cb_bk_bz fdx_bk_cb_bk_bz
    bae_ac_hu_ad_ea_bk_ci fdx_bk_ci fea_bk_et_bk_ci fdx_bk_et_bk_ci fea_bk_hg_bk_ci fdx_bk_hg_bk_ci
    fea_bk_cb_bk_ci fdx_bk_cb_bk_ci baf_ac_ip_ad_VRACHY fdr fet_bk_bz fbz fhg_bk_bz =1FB6 fcb
    gbk_bz bae_ac_ip_ad_VRACHY fdr fet fhg fci bKORONIS bci bea bcb bis_bk_cb
    baf_ac_ETA_ad_et_bk_bz fbz fhg_bk_bz =1FC6 fcb gbk_bz bae_ac_gz_ad_et fhg dETA_ad_et fhg fci
    bea_bk_et dhg dcb baf_ac_mk_ad_VRACHY fdr fis_bk_et hhg =1FD6 fcb fis_bk_cb bae_ac_mk_ad_VRACHY
    fdr fet fhg =1FDD bdx_bk_et dhg dcb baf_ac_gs_ad_VRACHY fdr fis_bk_et hhg dRHO_ad_ea fdx
    dgs_ad_cb fis_bk_cb bae_ac_gs_ad_VRACHY fdr fet fhg dRHO_ad_dx bis_bk_et dhg bet =1FF2
    baf_ac_hu_ad_et_bk_bz fbz fhg_bk_bz =1FF6 fcb gbk_bz bae_ac_jl_ad_et fhg dhu_ad_et fhg fci bhg
    bdx =2000 aEN_QUAD aEM_QUAD aEN_lr aEM_lr aTHREE-PER-EM_lr aFOUR-PER-EM_lr aSIX-PER-EM_lr
    aFIGURE_lr ace_lr aTHIN_lr aHAIR_lr afb_WIDTH_lr cNON-JOINER cJOINER anz_bl arr_bl aqd
    aNON-BREAKING_qd aFIGURE_jw aEN_jw aEM_jw aau_gh aan_ap_ge biy_ge aax_cy_ej_bl aak_cy_ej_bl
    acy_LOW-9_ej_bl bHIGH-REVERSED-9_ej_bl aax_an_ej_bl aak_an_ej_bl aan_LOW-9_ej_bl
    bHIGH-REVERSED-9_ej_bl aDAGGER aan_DAGGER anh afc_nh acu_dc_LEADER acn_dc_LEADER aau_px
    aHYPHENATION_tu age_ee awb_ee anz_EMBEDDING arr_EMBEDDING aPOP_DIRECTIONAL_FORMATTING
    anz_OVERRIDE arr_OVERRIDE aNARROW_NO-BREAK_lr aPER_MILLE_am bkc_bc_am avf aan_vf aev_vf abs_vf
    ban_vf bev_vf ayh acy_ec_ft_ej_bl bdd_ft_ej_bl aREFERENCE_bl aan_dy_bl arc aql aUNDERTIE
    ahv_TIE ayh_INSERTION_tu aASTERISM aqd_nh ahs_qp aax_bp_bf_ad_QUILL aak_bp_bf_ad_QUILL
    aan_ff_bl aff_dy_bl ady_ff_bl aTIRONIAN_am_ET abs_PILCROW_am aaz_ao_nh baj_nh aiy_dk abs_jy
    aCLOSE_UP acn_ASTERISKS_ALIGNED_nt asq_ok_am aSWUNG_jw acc_UNDERTIE aFLOWER_ce_bl aay_dc_ce
    akn_vf abv_dc_ce aca_dc_ce acn_dc_ce abv_dc_bl agb_gu aTRICOLON aap_bv_dw acg_mu_lr
    aWORD_JOINER aFUNCTION_APPLICATION aINVISIBLE_bu bee bdb =2066 anz_ISOLATE arr_ISOLATE
    aFIRST_STRONG_ISOLATE aPOP_DIRECTIONAL_ISOLATE aINHIBIT_SYMMETRIC_SWAPPING
    aACTIVATE_SYMMETRIC_SWAPPING aINHIBIT_ko_ah_SHAPING aACTIVATE_ko_ah_SHAPING aNATIONAL_ct_SHAPES
    aNOMINAL_ct_SHAPES aho_fb bfu_af_ac_I =2074 bbv bca bga bbx bbt bdo bdb_am bok bgq_am bax_cf
    bak_cf bfu_af_ac_N apo_fb bcu bcn bay bbv bca bga bbx bbt bdo bdb_am bok bgq_am bax_cf bak_cf
    =2090 afu_po_af_ac_A eE eO eX ezu eH eK eL eM eN eP eS eT =20A0 aEURO-CURRENCY_am aiv_am
    aCRUZEIRO_am aFRENCH_FRANC_am aLIRA_am aMILL_am aNAIRA_am aPESETA_am aRUPEE_am aWON_am
    aNEW_SHEQEL_am aDONG_am aEURO_am aKIP_am aTUGRIK_am aDRACHMA_am aGERMAN_PENNY_am aPESO_am
    aGUARANI_am aAUSTRAL_am aHRYVNIA_am aCEDI_am aLIVRE_TOURNOIS_am aSPESMILO_am aTENGE_am
    aINDIAN_RUPEE_am aTURKISH_LIRA_am aNORDIC_bl_am aMANAT_am aRUBLE_am aLARI_am aBITCOIN_am
    aSOM_am =20D0 adl_ax_dg_al bak_dg_al bfm_ap_ge_hq bfw_ap_ge_hq ben_ag_al bjd_ag_al bax_ag_al
    bak_ag_al bel_hq bjd_el_hq ben_el_hq bay_dw_al bbv_dw_al bENCLOSING_bq cbp cem cbq_pk
    bax_ak_ag_al bENCLOSING_SCREEN cKEYCAP cUPWARD_cd_bi bhy_hl_hq ban_ap_av_hq bANNUITY_aw
    bev_UNDERDOT bWIDE_BRIDGE_al bao_ag_hq bfm_an_hl_hq baj_dg_ad_eq_ba bao_dg_ad_eq_ba bax_ag_as
    bak_ag_as bdk_al =2100 aACCOUNT_OF aADDRESSED_TO_ua_SUBJECT ahh_ae_C aDEGREE_CELSIUS aeb_ge_aw
    aCARE_OF aCADA_UNA aEULER_CONSTANT aSCRUPLE aDEGREE_FAHRENHEIT aio_af_G bae_H apb_ae_H ahh_ae_H
    aPLANCK_CONSTANT cdz_cn_PI aio_ae_I apb_ae_I aio_ae_L baf_L aL_B_gh_aw ahh_ae_N aNUMERO_am
    aoz_RECORDING_COPYRIGHT aio_ae_P ahh_ae_P cQ aio_ae_R apb_ae_R ahh_ae_R aPRESCRIPTION_TAKE
    aRESPONSE aSERVICE_bl ajz_am aTRADE_bl_am aVERSICLE ahh_ae_Z aOUNCE_am aOHM_am acc_OHM_am
    apb_ae_Z acj_kr_af_ac_mk aKELVIN_am aANGSTROM_am aio_ae_B apb_ae_C aESTIMATED_aw aio_af_E bae_E
    cF acj_ae_F aio_ae_M baf_O aef_aw aBET_aw aqb_aw aDALET_aw aoh_SOURCE acr_ae_Q aFACSIMILE_am
    ahh_af_PI cln bae_ln cPI bN-ARY_SUMMATION acj_eu_ae_G dL abs_eu_ae_L acj_eu_ae_Y ahh_rn_ae_D
    caf_D dE dI dJ aPROPERTY_ge acj_ng aPER_am aAKTIESELSKAB acj_af_F aaw_tq_SAMARITAN_SOURCE
    aVULGAR_hs_cu_SEVENTH dNINTH dTENTH dtv ccn_vr ccu_FIFTH ccn_FIFTHS cay_FIFTHS cbv_FIFTHS
    ccu_SIXTH cca_SIXTHS ccu_ic cay_kq cca_kq cbx_kq ahs_NUMERATOR_cu aROMAN_pf_cu ccn cay cbv cca
    cga cbx cbt cdo ckc cpw cns cir ccu_bb cca_bb ccu_bc aaf_ROMAN_pf_cu dcn day dbv dca dga dbx
    dbt ddo dkc dpw dns dir dcu_bb dca_bb dcu_bc aROMAN_pf_cu_bc_C_D cca_bc ckc_bc cbs_cu_bb
    afu_af_ac_bs_C aROMAN_pf_ga_LATE_ah cir_EARLY_ah dbc ccu_bb_bc aVULGAR_hs_fb_vr acj_ct_cn cay
    =2190 aao_ag abr_ag aaj_ag aba_ag aax_ak_ag aUP_di_ag agl_ig_ag bhe_ag aha_he_ag big_ag
    aao_ag_ad_av aaj_ag_ad_av aao_rs_ag aaj_rs_ag aao_cn_HEADED_ag abr_cn_HEADED_ag
    aaj_cn_HEADED_ag aba_cn_HEADED_ag aao_ag_ad_ia aaj_ag_ad_ia aao_ag_mi_gh abr_ag_mi_gh
    aaj_ag_mi_gh aba_ag_mi_gh aUP_di_ag_ad_BASE aao_ag_ad_by aaj_ag_ad_by aao_ag_ad_va aaj_ag_ad_va
    aax_ak_rs_ag cag_ad_av aba_ya_ag abr_ag_ad_TIP_ao eaj aba_ag_ad_TIP_ao eaj aaj_ag_ad_hc_ba
    aba_ag_ad_hc_ao aen_sg_tg_ag ajd_sg_tg_ag agl_ig_ag_TO_fm_gh aao_ag_TO_gh_dz_aj_ag_TO_gh
    aen_fj_bq_ag ajd_fj_bq_ag aao_dg_ad_eq_br eba abr_dg_ad_eq_aj eao aaj_dg_ad_eq_br eba
    aba_dg_ad_eq_aj eao aaj_ag_dz_ao_ag abr_ag_ao_OF_ba_ag aao_ag_dz_aj_ag bxn_mb abr_xn_mb
    aaj_xn_mb aba_xn_mb aao_dg_dz_aj_dg aaj_dg_dz_ao_dg aao_an_ag_ad_av aax_ak_an_ag_ad_av
    aaj_an_ag_ad_av aao_an_ag abr_an_ag aaj_an_ag aba_an_ag aax_ak_an_ag aUP_di_an_ag agl_ig_an_ag
    bhe_an_ag aha_he_an_ag big_an_ag aao_ev_ag aaj_ev_ag aao_SQUIGGLE_ag aaj_SQUIGGLE_ag
    abr_ag_ad_an_av aba_ag_ad_an_av aao_or_ag abr_or_ag aaj_or_ag aba_or_ag aao_ag_TO_gh
    aaj_ag_TO_gh aao_be_ag abr_be_ag aaj_be_ag aba_be_ag abr_be_ag_mi_gh dON_PEDESTAL fad_au_gh
    gap_gh can_ag eON_PEDESTAL aaj_be_ag_mi_WALL agl_ig_ag_TO_hc aha_he_ag_TO_hc aUP_di_be_ag
    aak_ag_ad_af_bq aba_ag_ao_OF_br_ag aay_aj_mb aao_ag_ad_ap_av aaj_ag_ad_ap_av aax_ak_ag_ad_ap_av
    aao_ag_ad_an_ap_av aaj_ag_ad_an_ap_av aax_ak_ag_ad_an_ap_av aao_OPEN-HEADED_ag
    aaj_OPEN-HEADED_ag aax_ak_OPEN-HEADED_ag atq_ALL aCOMPLEMENT atb_mp aTHERE_EXISTS
    bDOES_mw_EXIST aEMPTY_SET aINCREMENT aNABLA apc_OF amw_AN_pc_OF aaf_pc_OF aps_AS_MEMBER
    aDOES_mw_CONTAIN_AS_MEMBER aaf_ps_AS_MEMBER auc_OF_PROOF aN-ARY_lz bCOPRODUCT bSUMMATION aok_am
    aMINUS-OR-PLUS_am adc_db apu_qp aSET_ok adk_dq ael_dq anh_dq abp_ROOT aCUBE_ROOT aFOURTH_ROOT
    aPROPORTIONAL_TO auu aak_ft aft azh_ft aSPHERICAL_ft aDIVIDES aDOES_mw_DIVIDE aqm_TO amw_qm_TO
    alv_bk bOR afg apa aht aan_ht aev_ht aCONTOUR_ht aSURFACE_ht aVOLUME_ht ajd_ht bCONTOUR_ht
    aen_CONTOUR_ht aTHEREFORE aBECAUSE aRATIO aPROPORTION adc_ok aEXCESS aGEOMETRIC_PROPORTION
    aHOMOTHETIC acs_dq abs_cs acc_LAZY_S aSINE_rs aWREATH_lz amw_cs aok_cs aASYMPTOTICALLY_cm_TO
    amw_ASYMPTOTICALLY_cm_TO anw_cm_TO bBUT_mw_ACTUALLY_cm_TO aNEITHER_nw_NOR_ACTUALLY_cm_TO
    ama_cm_TO amw_ma_cm_TO ama_cm_OR_cm_TO aev_cs aALL_cm_TO ahi_TO aGEOMETRICALLY_hi_TO
    aDIFFERENCE_js aAPPROACHES_ua_LIMIT aGEOMETRICALLY_cm_TO anw_cm_TO_OR_ua_IMAGE_OF
    aIMAGE_OF_OR_nw_cm_TO aiv_gq agq_iv ael_IN_cm_TO bcm_TO aCORRESPONDS_TO aESTIMATES
    aEQUIANGULAR_TO ahm_gq amo_cm_TO acm_TO_BY_DEFINITION azh_BY aQUESTIONED_cm_TO amw_cm_TO
    aIDENTICAL_TO amw_IDENTICAL_TO aSTRICTLY_hi_TO abw_OR_cm_TO abj_OR_cm_TO abw_dz_cm_TO
    abj_dz_cm_TO abw_BUT_mw_cm_TO abj_BUT_mw_cm_TO aMUCH_bw bbj ajs amw_hi_TO bbw bbj
    aNEITHER_bw_NOR_cm_TO bbj_NOR_cm_TO abw_OR_hi_TO abj_OR_hi_TO aNEITHER_bw_NOR_hi_TO
    bbj_NOR_hi_TO abw_OR_bj abj_OR_bw aNEITHER_bw_NOR_bj bbj_NOR_bw akj akm akj_OR_cm_TO
    akm_OR_cm_TO akj_OR_hi_TO akm_OR_hi_TO aDOES_mw_PRECEDE cSUCCEED aik_OF agn_OF amw_A_ik_OF
    cgn_OF aik_OF_OR_cm_TO agn_OF_OR_cm_TO aNEITHER_A_ik_OF_NOR_cm_TO cgn_OF_NOR_cm_TO
    aik_OF_ad_mw_cm_TO agn_OF_ad_mw_cm_TO aMULTISET bgy bpa abp_IMAGE_OF bzl_OF bIMAGE_OF_OR_cm_TO
    bzl_OF_OR_cm_TO bCAP bCUP adm_db bok bbu bpu_qp bdc_dq bel_dq bdk_dq bgq bjw afe_db bok bbu
    bdc_dq aak_ll aax_ll adi_ll aUP_ll aASSERTION aMODELS aTRUE aFORCES aev_ap_gh_ak_nr
    aan_ap_gh_an_ak_nr aDOES_mw_PROVE amw_TRUE aDOES_mw_FORCE aNEGATED_an_ap_gh_an_ak_nr
    akj_UNDER_RELATION akm_UNDER_RELATION asz_qq_OF aps_AS_sz_qq asz_qq_OF_OR_cm_TO
    aps_AS_sz_qq_OR_cm_TO azl_OF aIMAGE_OF aMULTIMAP aHERMITIAN_CONJUGATE_MATRIX aINTERCALATE aXOR
    aNAND aNOR aak_ft_ad_ARC bbi aN-ARY_lv_bk cOR bfg bpa aem_dq adc_dq ahm_dq apu_bu aBOWTIE
    aax_sz_FACTOR_th_lz aak_sz_FACTOR_th_lz aax_th_lz aak_th_lz abs_cs_gq akg_lv_OR cbk aan_ik bgn
    bfg bpa aPITCHFORK acm_bk_qm_TO abw_ad_dc abj_ad_dc anu_MUCH_bw cbj abw_cm_TO_OR_bj
    abj_cm_TO_OR_bw acm_TO_OR_bw dbj dkj dkm aDOES_mw_PRECEDE_OR_cm cSUCCEED_OR_cm
    amw_bp_IMAGE_OF_OR_cm_TO czl_OF_OR_cm_TO abp_IMAGE_OF_OR_mw_cm_TO bzl_OF_OR_mw_cm_TO
    abw_BUT_mw_hi_TO abj_BUT_mw_hi_TO akj_BUT_mw_hi_TO akm_BUT_mw_hi_TO amw_sz_qq_OF
    aDOES_mw_CONTAIN_AS_sz_qq amw_sz_qq_OF_OR_cm_TO aDOES_mw_CONTAIN_AS_sz_qq_OR_cm aap_px
    aMIDLINE_au_px aUP_ak_dn_px adi_ak_dn_px apc_OF_ad_fm_au_av dap_gh_AT_uc_OF_au_av
    aaf_pc_OF_ad_ap_gh_AT_uc_OF_au_av apc_OF_ad_dc_al dly aaf_pc_OF_ad_ly apc_OF_ad_gf
    dcn_au_STROKES aps_ad_fm_au_av cap_gh_AT_uc_OF_au_av aaf_ps_ad_ap_gh_AT_uc_OF_au_av aps_ad_ly
    aaf_ps_ad_ly aZ_qi_BAG_MEMBERSHIP aDIAMETER_am aELECTRIC_ag aHOUSE aUP_bo adi_bo aPROJECTIVE
    aPERSPECTIVE aWAVY_ge aax_qz aak_qz aax_ys aak_ys ahb_ak_CROP bax_CROP asg_ak_CROP bax_CROP
    abs_mw_am abp_lw aARC aSEGMENT aSECTOR ajz_RECORDER aPOSITION_nm aVIEWDATA_bp
    aPLACE_OF_INTEREST_am acj_mw_am aWATCH aHOURGLASS asg_ax_hc bak_hc ahb_ax_hc bak_hc asg_dj_ht
    ahb_dj_ht aFROWN aSMILE aUP_bo_js_cn_au_BARS aOPTION_KEY aERASE_TO_ua_ak aX_IN_A_pn_BOX azd
    aec_ft_bf add_ft_bf aERASE_TO_ua_ax aBENZENE_el aCYLINDRICITY aALL_AROUND-PROFILE aSYMMETRY
    aTOTAL_RUNOUT aDIMENSION_ORIGIN aCONICAL_TAPER aSLOPE aCOUNTERBORE aCOUNTERSINK
    aAPL_FUNCTIONAL_aw_I-BEAM dSQUISH_QUAD dQUAD_cm eDIVIDE eem eJOT ebq dbq_STILE eJOT dqp_gh
    dpk_gh dQUAD_qp epk ebw ebj dao_VANE daj_VANE dQUAD_ao_ag eaj_ag dbq_pk ddi_ll_gf dmo_STILE
    dQUAD_di_yh emo ddi_ll_JOT dbr_VANE dQUAD_br_ag dUP_ll_ly dDEL_STILE dQUAD_UP_yh eDEL
    dUP_ll_JOT dba_VANE dQUAD_ba_ag dQUOTE_gf dmo_gf dem_gf dJOT_gf dbq_gf dUP_SHOE_JOT dQUOTE_QUAD
    dbq_hm dQUAD_iv dUP_ll_bm dDEL_bm dhm_bm dJOT_bm dbq_bm ddi_SHOE_STILE dax_SHOE_STILE dcs_bm
    dbj_bm dew_gh dDEL_cs dZILDE dSTILE_cs djy_gf dQUAD_mw_cm eff ddi_yh_cs dUP_yh_cs dmk dRHO dhu
    dip_gf dgz_gf dmk_gf dhu_gf dip amw_uk_bl aak_ft_ad_ba_ya_ag aSHOULDERED_fj_BOX aBELL_aw
    aap_ge_ad_bd_dc aINSERTION_aw aCONTINUOUS_UNDERLINE_aw aDISCONTINUOUS_UNDERLINE_aw aEMPHASIS_aw
    aCOMPOSITION_aw abe_bp_ad_eb_ap_ge aENTER_aw aALTERNATIVE_KEY_aw aHELM_aw adm_au_gh_ad_NOTCH
    bbi_di aBROKEN_bq_ad_NORTHWEST_ag aUNDO_aw aMONOSTABLE_aw aHYSTERESIS_aw
    aOPEN-CIRCUIT-OUTPUT_H-TYPE_aw bL-TYPE_aw aPASSIVE-PULL-DOWN-OUTPUT_aw
    aPASSIVE-PULL-UP-OUTPUT_aw aDIRECT_CURRENT_aw_ah_cn aSOFTWARE-FUNCTION_aw
    aAPL_FUNCTIONAL_aw_QUAD aDECIMAL_ee_KEY_aw aPREVIOUS_PAGE aNEXT_PAGE aPRINT_SCREEN_aw
    aCLEAR_SCREEN_aw aax_cf_dt_by cnl ccw_by aak_cf_dt_by cnl ccw_by aax_bp_bf_dt_hc dnl dcw_hc
    aak_bp_bf_dt_hc dnl dcw_hc aax_kg_bf_dt_by dbd_PIECE dcw_by akg_bf_nl aak_kg_bf_dt_by dbd_PIECE
    dcw_by aht_nl aau_ge_nl adt_ax_OR_cw_ak_kg_bf_hk bak_OR_cw_ax_kg_bf_hk aSUMMATION_sg bhb
    asg_bp_bf ahb_bp_bf ddz_sg_bp_bf aRADICAL_aw_hb aax_ap_BOX_ge aak_ap_BOX_ge aau_SCAN_LINE-1
    cLINE-3 cLINE-7 cLINE-9 aDENTISTRY_aw_co_ap_bk_sg_ak fhb_ak ead_bq ddi_bk_au_ad_bq
    dUP_bk_au_ad_bq dap_ad_bi ddi_bk_au_ad_bi dUP_bk_au_ad_bi dap_bk_rs ddi_bk_au_ad_rs
    dUP_bk_au_ad_rs ddi_bk_au dUP_bk_au dap_bk_sg_ax fhb_ax abp_FOOT aRETURN_aw aEJECT_aw aap_ge_nl
    aMETRICAL_fi bfm_dz_fw bfw_dz_fm bfm_dz_cn_SHORTS bcn_SHORTS_dz_fm dJOINED bTRISEME bTETRASEME
    bPENTASEME arv_GROUND aFUSE asg_cf ahb_cf asg_kg_bf ahb_kg_bf asg_if_ld_bf ahb_if_ld_bf
    abe_TRAPEZIUM aBENZENE_el_ad_bq aSTRAIGHTNESS aFLATNESS aAC_CURRENT aELECTRICAL_fg
    aDECIMAL_EXPONENT_aw aaz_dd_an_bi bec_an_bi bhf_an_bi bgx_an_bi bdd_an_bi_ad_ap_gh
    bec_an_bi_ad_ap_gh bdd_bi_ad_an_ap_gh aALARM_CLOCK aSTOPWATCH aTIMER_CLOCK
    aHOURGLASS_ad_FLOWING_SAND aaz_cg_ec_bi cdd_bi chf_bi cgx_bi aan_ap_gh aaz_bp_tq_gg
    bbq_tq_RECORD aPOWER_aw bON-OFF_aw bON_aw bSLEEP_aw aOBSERVER_EYE_aw aaw_tq_NULL
    cSTART_OF_HEADING eTEXT cuc_OF_TEXT eto cENQUIRY cue cBELL cBACKSPACE cau_ja cge_FEED cap_ja
    cah_FEED cCARRIAGE_RETURN cSHIFT_OUT dIN cDATA_LINK_ESCAPE cDEVICE_ra_cu ecn eay ebv ciz_ue
    cSYNCHRONOUS_IDLE cuc_OF_to_ey cCANCEL cuc_OF_cg cSUBSTITUTE cESCAPE cFILE_ee cGROUP_ee
    cRECORD_ee cUNIT_ee clr cDELETE aBLANK_aw afj_BOX aaw_tq_NEWLINE cDELETE_ah_cn
    cSUBSTITUTE_ah_cn =2440 aOCR_by bCHAIR bFORK bcc_FORK bBELT_BUCKLE bBOW_TIE
    bBRANCH_BANK_IDENTIFICATION bAMOUNT_OF_uk bjw bCUSTOMER_ACCOUNT_ds ban_pk =2460 adm_ct_cu ccn
    cay cbv cca cga cbx cbt cdo bds_kc cpw cns cqt cqa cny cph cno coe cqh cfn arq_ct_cu ccn cay
    cbv cca cga cbx cbt cdo bds_kc cpw cns cqt cqa cny cph cno coe cqh cfn act_cu_ii_gg bcn_ii_gg
    bay_ii_gg bbv_ii_gg bca_ii_gg bga_ii_gg bbx_ii_gg bbt_ii_gg bdo_ii_gg ads_kc_ii_gg bpw_ii_gg
    bns_ii_gg bqt_ii_gg bqa_ii_gg bny_ii_gg bph_ii_gg bno_ii_gg boe_ii_gg bqh_ii_gg bfn_ii_gg
    arq_fu_af_ac_A eB eC eD eE eF eG eH eI eJ eK eL eM eN eO eP eQ eR eS eT eU eV eW eX eY eZ
    adm_fu_ae_ac_A eB eC eD eE eF eG eH eI eJ eK eL eM eN eO eP eQ eR eS eT eU eV eW eX eY eZ
    caf_ac_A eB eC eD eE eF eG eH eI eJ eK eL eM eN eO eP eQ eR eS eT eU eV eW eX eY eZ bct_fb
    aiz_dm_ds_pw dns dqt dqa dny dph dno doe dqh dfn aan_dm_ct_cu dcn day dbv dca dga dbx dbt ddo
    cds_kc aiz_dm_ct_fb aBOX_DRAWINGS_co_au cbn_au cco_ap cbn_ap cco_ev_jw_au cbn_ev_jw_au
    cco_ev_jw_ap cbn_ev_jw_ap cco_kn_jw_au cbn_kn_jw_au cco_kn_jw_ap cbn_kn_jw_ap cco_di_bk_ak
    cdi_co_bk_ak_bn dbn_bk_ak_co cbn_di_bk_ak cco_di_bk_ax cdi_co_bk_ax_bn dbn_bk_ax_co
    cbn_di_bk_ax cco_UP_bk_ak cUP_co_bk_ak_bn dbn_bk_ak_co cbn_UP_bk_ak cco_UP_bk_ax
    cUP_co_bk_ax_bn dbn_bk_ax_co cbn_UP_bk_ax cco_ap_bk_ak cap_co_bk_ak_bn cUP_bn_bk_ak_di_co
    cdi_bn_bk_ak_UP_co cap_bn_bk_ak_co cdi_co_bk_ak_UP_bn cUP_co_bk_ak_di_bn cbn_ap_bk_ak
    cco_ap_bk_ax cap_co_bk_ax_bn cUP_bn_bk_ax_di_co cdi_bn_bk_ax_UP_co cap_bn_bk_ax_co
    cdi_co_bk_ax_UP_bn cUP_co_bk_ax_di_bn cbn_ap_bk_ax cco_di_bk_au cax_bn_bk_ak_di_co
    cak_bn_bk_ax_di_co cdi_co_bk_au_bn dbn_bk_au_co cak_co_bk_ax_di_bn cax_co_bk_ak_di_bn
    cbn_di_bk_au cco_UP_bk_au cax_bn_bk_ak_UP_co cak_bn_bk_ax_UP_co cUP_co_bk_au_bn dbn_bk_au_co
    cak_co_bk_ax_UP_bn cax_co_bk_ak_UP_bn cbn_UP_bk_au cco_ap_bk_au cax_bn_bk_ak_ap_co
    cak_bn_bk_ax_ap_co cap_co_bk_au_bn cUP_bn_bk_di_au_co cdi_bn_bk_UP_au_co cap_bn_bk_au_co
    cax_UP_bn_bk_ak_di_co cak_UP_bn_bk_ax_di_co cax_di_bn_bk_ak_UP_co cak_di_bn_bk_ax_UP_co
    cdi_co_bk_UP_au_bn cUP_co_bk_di_au_bn cak_co_bk_ax_ap_bn cax_co_bk_ak_ap_bn cbn_ap_bk_au
    cco_an_jw_au cbn_an_jw_au cco_an_jw_ap cbn_an_jw_ap can_au dap cdi_cy_bk_ak_an dan_bk_ak_cy
    can_di_bk_ak cdi_cy_bk_ax_an dan_bk_ax_cy can_di_bk_ax cUP_cy_bk_ak_an dan_bk_ak_cy
    can_UP_bk_ak cUP_cy_bk_ax_an dan_bk_ax_cy can_UP_bk_ax cap_cy_bk_ak_an dan_bk_ak_cy
    can_ap_bk_ak cap_cy_bk_ax_an dan_bk_ax_cy can_ap_bk_ax cdi_cy_bk_au_an dan_bk_au_cy
    can_di_bk_au cUP_cy_bk_au_an dan_bk_au_cy can_UP_bk_au cap_cy_bk_au_an dan_bk_au_cy
    can_ap_bk_au cco_ARC_di_bk_ak gax eUP_bk_ax gak ddn_dt_ak_TO_cw_ax fax_TO_cw_ak egu dax dUP dak
    ddi cbn_ax dUP dak ddi cco_ax_bk_bn_ak dUP_bk_bn_di cbn_ax_bk_co_ak dUP_bk_co_di adt_dj_ey
    acw_cu_ic_ey cfl_ey bay_kq_ey bdj_ey bca_kq_ey bay_jn_ey bbx_kq_ey aii_ey aax_bx_kq_ey
    bay_jn_ey bca_kq_ey bdj_ey bay_kq_ey bcu_fl_ey cic_ey aak_dj_ey aco_ri acg_ri aDARK_ri
    adt_cu_ic_ey aak_cu_ic_ey ajm_cw_ax cak bdt_ax dbk_cw_ax_bk_cw_ak fak edt_ak_bk_cw_ax iak cak
    dbk_cw_ax gbk_cw_ak aaz_bp abe_bp cad_pg_yl cni_az_af_bp abp_ad_au_FILL cap_FILL
    cORTHOGONAL_CROSSHATCH_FILL cdt_ax_TO_cw_ak_FILL dak_TO_cw_ax_FILL cdn_CROSSHATCH_FILL
    aaz_af_bp abe_af_bp aaz_pn abe_pn aaz_ap_pn abe_ap_pn aaz_PARALLELOGRAM abe_PARALLELOGRAM
    aaz_hf_bi abe_hf_bi aaz_hf_af_bi abe_hf_af_bi aaz_dd_bi abe_dd_bi aaz_dd_af_bi abe_dd_af_bi
    aaz_dd_POINTER abe_dd_POINTER aaz_gx_bi abe_gx_bi aaz_gx_af_bi abe_gx_af_bi aaz_ec_bi abe_ec_bi
    aaz_ec_af_bi abe_ec_af_bi aaz_ec_POINTER abe_ec_POINTER aaz_em abe_em cni_az_af_em aFISHEYE alw
    abe_bq agb_bq abq_ad_ap_FILL aBULLSEYE aaz_bq abq_ad_ax_dj_az cak_dj_az ccw_dj_az cdt_dj_az
    dak_jm_az cALL_BUT_dt_ax_jm_az aax_dj_az_bq aak_dj_az_bq apd_nh bbe_bq adt_dj_pd_be_bq
    acw_dj_pd_be_bq adt_ax_jm_yi_ARC bak_jm_yi_ARC acw_ak_jm_yi_ARC bax_jm_yi_ARC adt_dj_bq
    acw_dj_bq aaz_cw_ak_bi cax_bi bdt_ax_bi cak_bi abe_nh abp_ad_ax_dj_az cak_dj_az cdt_ax_dn_dj_az
    ccw_ak_dn_dj_az abe_bp_ad_ap_BISECTING_ge bhf_bi_ad_dc ahf_bi_ad_ax_dj_az dak_dj_az aeh_bq
    abe_bp_ad_dt_ax_jm dcw_ax_jm eak_jm ddt_ak_jm bbq_ad_dt_ax_jm dcw_ax_jm eak_jm ddt_ak_jm
    adt_ax_bi bak_bi acw_ax_bi abe_cg_bp aaz_cg_bp abe_cg_af_bp aaz_cg_af_bp acw_ak_bi
    aaz_SUN_ad_RAYS aCLOUD aUMBRELLA aSNOWMAN aCOMET aaz_hm abe_hm aLIGHTNING aTHUNDERSTORM aSUN
    aASCENDING_NODE aDESCENDING_NODE aCONJUNCTION aOPPOSITION aaz_jz abe_jz aBALLOT_BOX cad_uk dX
    aob aUMBRELLA_ad_RAIN_DROPS aHOT_BEVERAGE abe_SHOGI_PIECE aaz_SHOGI_PIECE aSHAMROCK
    abs_cr_FLORAL_jr_nh aaz_ax_cd_ck bak_cd_ck abe_ax_cd_ck bUP_cd_ck bak_cd_ck bdi_cd_ck
    aSKULL_bk_CROSSBONES aCAUTION_am aRADIOACTIVE_am aBIOHAZARD_am aCADUCEUS aANKH aORTHODOX_gu
    aCHI_RHO agu_OF_LORRAINE cJERUSALEM ahm_bk_ul aFARSI_aw aADI_SHAKTI aHAMMER_bk_SICKLE aPEACE_aw
    aYIN_YANG aTRIGRAM_tq_HEAVEN cLAKE cFIRE cTHUNDER cWIND ctw cqf crv aWHEEL_OF_DHARMA
    abe_FROWNING_du bju_du aaz_ju_du abe_SUN_ad_RAYS aFIRST_fl_os aLAST_fl_os aMERCURY aFEMALE_am
    arv aMALE_am aJUPITER aSATURN aURANUS aNEPTUNE aPLUTO aARIES aTAURUS aGEMINI aCANCER aLEO
    aVIRGO aLIBRA aSCORPIUS aSAGITTARIUS aCAPRICORN aAQUARIUS aPISCES abe_iu_ux cqn cROOK cpq chw
    cPAWN aaz_iu_ux cqn cROOK cpq chw cPAWN bSPADE_SUIT abe_jr_SUIT bem_SUIT aaz_CLUB_SUIT
    abe_SPADE_SUIT aaz_jr_SUIT bem_SUIT abe_CLUB_SUIT aHOT_SPRINGS afl_ta aic_ta aBEAMED_ic_NOTES
    bse_NOTES aMUSIC_FLAT_am bNATURAL_am bSHARP_am aig_SYRIAC_gu ahe_SYRIAC_gu
    aUNIVERSAL_RECYCLING_aw aRECYCLING_aw_tq_TYPE-1_sd dTYPE-2_sd dTYPE-3_sd dTYPE-4_sd dTYPE-5_sd
    dTYPE-6_sd dTYPE-7_sd dGENERIC_MATERIALS aaz_UNIVERSAL_RECYCLING_aw aRECYCLED_PAPER_aw
    aPARTIALLY-RECYCLED_PAPER_aw aPERMANENT_PAPER_am aWHEELCHAIR_aw aDIE_FACE-1 bFACE-2 bFACE-3
    bFACE-4 bFACE-5 bFACE-6 abe_bq_ad_dc_ak dcn_dw aaz_bq_ad_be_dc_ak dcn_be_dw avb_tq_YANG cYIN
    aDIGRAM_tq_GREATER_YANG cLESSER_YIN dYANG cGREATER_YIN abe_FLAG aaz_FLAG aHAMMER_bk_PICK
    aANCHOR alt_SWORDS aSTAFF_OF_AESCULAPIUS aSCALES aALEMBIC aFLOWER aGEAR aSTAFF_OF_HERMES
    aATOM_aw aFLEUR-DE-LIS asc_be_hm aay_LINES_CONVERGING_ak dax aWARNING_am afy_VOLTAGE_am
    aDOUBLED_FEMALE_am bMALE_am aINTERLOCKED_FEMALE_bk_MALE_am aMALE_bk_FEMALE_am bad_av_am
    dbk_MALE_bk_FEMALE_am aap_MALE_ad_av_am aau_MALE_ad_av_am acg_be_bq baz_bq baf_be_bq
    aMARRIAGE_aw aDIVORCE_aw aUNMARRIED_PARTNERSHIP_aw aCOFFIN aFUNERAL_URN aNEUTER aCERES aPALLAS
    aJUNO aVESTA aCHIRON aaz_os_LILITH aSEXTILE aSEMISEXTILE aQUINCUNX aSESQUIQUADRATE aSOCCER_BALL
    aBASEBALL afe_KEY abe_DRAUGHTS_MAN cux aaz_DRAUGHTS_MAN cux aSNOWMAN_WITHOUT_SNOW
    aSUN_BEHIND_CLOUD aRAIN aaz_SNOWMAN aTHUNDER_CLOUD_bk_RAIN acj_be_SHOGI_PIECE baz_SHOGI_PIECE
    abe_em_IN_bp aes_LANES aDISABLED_CAR aOPHIUCHUS aPICK aCAR_SLIDING aHELMET_ad_be_gu
    adm_es_LANES aCHAINS aNO_ENTRY afr_ONE-WAY_ax_WAY_TRAFFIC aaz_TWO-WAY_ax_WAY_TRAFFIC
    abe_TWO-WAY_ax_WAY_TRAFFIC aaz_ax_LANE_MERGE abe_ax_LANE_MERGE aDRIVE_SLOW_am abn_be_gx_bi
    aax_go_ENTRY afe_ob avx_dn_IN_be_bq_IN_az_bp aaz_TRUCK aRESTRICTED_ax_ENTRY-1 cENTRY-2
    aASTRONOMICAL_aw_tq_URANUS abn_bq_ad_av_bk_cn_dw_al aPENTAGRAM
    aRIGHT-HANDED_INTERLACED_PENTAGRAM aLEFT-HANDED_INTERLACED_PENTAGRAM acc_PENTAGRAM
    aaz_gu_ON_SHIELD aSHINTO_SHRINE aCHURCH aCASTLE aHISTORIC_SITE aGEAR_WITHOUT_HUB bad_HANDLES
    aMAP_aw_tq_LIGHTHOUSE aqf aUMBRELLA_ON_GROUND aFOUNTAIN aFLAG_IN_HOLE aFERRY aSAILBOAT
    abp_bv_yl aSKIER aICE_SKATE ame_ad_BALL aTENT arz_BANK_aw aHEADSTONE_GRAVEYARD_aw aFUEL_PUMP
    aCUP_ON_az_bp abe_FLAG_ad_au_bd_az_STRIPE aaz_SAFETY_vn adt_BLADE_vn aaz_vn acw_BLADE_vn abe_vn
    bbn_uk_bl ajz_LOCATION_am aTAPE_DRIVE art aof aij_FIST bmj aVICTORY_mj aWRITING_mj
    acw_ak_PENCIL aPENCIL adt_ak_PENCIL abe_NIB aaz_NIB auk_bl abn_uk_bl agy_X abn_gy_X aBALLOT_X
    abn_BALLOT_X asc_kr_gu abn_kr_gu afj_eb_gu abn_fj_eb_gu afu_gu akk_be_fu_gu asc_fu_gu
    aMALTESE_gu ahm_OF_DAVID abv_jf_dk bui_dk abn_bv_ui_dk abv_CLUB-SPOKED_dk aaz_bv_fd_hm
    abe_bv_fd_hm aSPARKLES aSTRESS_sc_be_hm adm_be_hm afj_eb_az_hm aaz_eb_be_hm asc_az_hm
    abn_sc_az_hm aom_hm akk_be_hm abn_dk afj_eb_dk abt_le_dk bfd_az_hm com_hm aga_fd_az_hm
    abt_fd_RECTILINEAR_az_hm abn_bt_fd_RECTILINEAR_az_hm ans_fd_az_hm aph_fd_dk ajf_dk afj_eb_jf_dk
    abn_jf_dk aga_PETALLED_az_bk_be_FLORETTE aaz_FLORETTE abe_FLORETTE abt_PETALLED_sc_az_FLORETTE
    adm_fj_eb_bt_fd_hm abn_jf_om_dk aSNOWFLAKE aTIGHT_TRIFOLIATE_SNOWFLAKE abn_CHEVRON_SNOWFLAKE
    aSPARKLE abn_SPARKLE aui_dk abt_jf_PROPELLER_dk abn_bt_jf_PROPELLER_dk agu_bl akk_be_bq
    aiz_fe_gu_bl acw_ak_DROP-SHADOWED_be_bp adt_ak_DROP-SHADOWED_be_bp acw_ak_kk_be_bp
    adt_ak_kk_be_bp aaz_ff_bl_cq abe_ff_bl_cq bdy_bl_cq aaz_em_ok_be_X abn_dy_bl_aw aco_ap_gh
    acg_ap_gh abn_ap_gh bcy_cj_ew_ej_bl_cq cew_ej_bl_cq ban_cj_ew_ej_bl_cq cew_ej_bl_cq
    biy_cy_ew_ej_bl_cq can_ew_ej_bl_cq arl_STEM_wb_am_cq abn_dy_bl_cq bjr_dy_bl_cq baz_jr
    acr_bn_az_jr_nh aFLORAL_jr acr_FLORAL_jr_nh acg_ax_cf_cq bak_cf_cq bFLATTENED_ax_cf_cq
    cak_cf_cq bec_ft_bf_cq bdd_ft_bf_cq abn_ec_ft_ej_bl_cq bdd_ft_ej_bl_cq bec_ft_bf_cq
    bdd_ft_bf_cq aco_ax_if_ld_bf_cq bak_if_ld_bf_cq acg_ax_kg_bf_cq bak_kg_bf_cq
    aDINGBAT_iz_dm_ct_cu ecn eay ebv eca ega ebx ebt edo dds_kc bdm_eu_ct_cu ecn eay ebv eca ega
    ebx ebt edo dds_kc biz_dm_eu_ct_cu fcn fay fbv fca fga fbx fbt fdo eds_kc abn_WIDE-HEADED_aj_ag
    bdb_am bok_am bpu_am bha_he_ag baj_ag bgl_he_ag aDRAFTING_tu_aj_ag abn_ROUND-TIPPED_aj_ag
    aaq_aj_ag abn_aq_aj_ag aor_aq_aj_ag abn_or_aq_aj_ag aaz_aj_ag aTHREE-D_TOP-LIGHTED_aj_bo
    bBOTTOM-LIGHTED_aj_bo aaz_aj_bo abn_az_rl_ba_bk_aj_ag dbr_bk_aj_ag aSQUAT_az_aj_ag
    abn_CONCAVE-POINTED_az_aj_ag azt_be_aj_ag aLEFT-SHADED_be_aj_ag aBACK-TILTED_kk_be_aj_ag
    ayu_kk_be_aj_ag abn_cw_qo_be_aj_ag bdt_qo_be_aj_ag arf_cw_qo_be_aj_ag akg_va arf_dt_qo_be_aj_ag
    adm_bn_be_aj_ag aWHITE-FEATHERED_aj_ag aBLACK-FEATHERED_ha_he_ag baj_ag bgl_he_ag
    abn_BLACK-FEATHERED_ha_he_ag caj_ag cgl_he_ag aTEARDROP-BARBED_aj_ag abn_TEARDROP-SHANKED_aj_ag
    aWEDGE-TAILED_aj_ag abn_WEDGE-TAILED_aj_ag aOPEN-OUTLINED_aj_ag aan_kg_va aay_DIMENSIONAL_ft
    abe_bi_ni_af_be_bi awr afj_ik bgn aax_S-SHAPED_BAG_DELIMITER aak_S-SHAPED_BAG_DELIMITER
    aOR_ad_dc_kp ahy_hl_PRECEDING_ik agn_PRECEDING_hl aap_gh_ad_au_av amu_ot_dn afm_pu amu_vx_dn
    afe_lv_bk cOR abe_em_ad_so_dc abk_ad_dc apc_OF_OPENING_br acw_ak_hc_ad_dc adt_ax_hc_ad_dc
    aax_OUTER_JOIN aak_OUTER_JOIN aii_OUTER_JOIN aeh_UP_ll bdi_ll aax_bk_ak_an_nr dll bMULTIMAP
    afm_ak_ll bax_ll aUP_ll_ad_bq_al alw_DIVIDED_BY_au_RULE abe_CONCAVE-SIDED_em dad_ao_TICK
    eaj_TICK bbp_ad_ao_TICK daj_TICK amu_ax_be_bp_bf bak_be_bp_bf bax_ft_bf bak_ft_bf bax_an_ft_bf
    bak_an_ft_bf bax_be_if_ld_bf bak_be_if_ld_bf bax_FLATTENED_cf bak_FLATTENED_cf abr_kn_ag
    aba_kn_ag aen_GAPPED_bq_ag ajd_GAPPED_bq_ag aak_ag_ad_dm_db afm_ao_ag baj_ag bax_ak_ag
    bao_an_ag baj_an_ag bax_ak_an_ag bao_ag_mi_gh baj_ag_mi_gh bao_an_ag_mi_gh baj_an_ag_mi_gh
    cSQUIGGLE_ag aBRAILLE_PATTERN_BLANK cDOTS-1 cDOTS-2 cDOTS-12 cDOTS-3 cDOTS-13 cDOTS-23
    cDOTS-123 cDOTS-4 cDOTS-14 cDOTS-24 cDOTS-124 cDOTS-34 cDOTS-134 cDOTS-234 cDOTS-1234 cDOTS-5
    cDOTS-15 cDOTS-25 cDOTS-125 cDOTS-35 cDOTS-135 cDOTS-235 cDOTS-1235 cDOTS-45 cDOTS-145
    cDOTS-245 cDOTS-1245 cDOTS-345 cDOTS-1345 cDOTS-2345 cDOTS-12345 cDOTS-6 cDOTS-16 cDOTS-26
    cDOTS-126 cDOTS-36 cDOTS-136 cDOTS-236 cDOTS-1236 cDOTS-46 cDOTS-146 cDOTS-246 cDOTS-1246
    cDOTS-346 cDOTS-1346 cDOTS-2346 cDOTS-12346 cDOTS-56 cDOTS-156 cDOTS-256 cDOTS-1256 cDOTS-356
    cDOTS-1356 cDOTS-2356 cDOTS-12356 cDOTS-456 cDOTS-1456 cDOTS-2456 cDOTS-12456 cDOTS-3456
    cDOTS-13456 cDOTS-23456 cDOTS-123456 cDOTS-7 cDOTS-17 cDOTS-27 cDOTS-127 cDOTS-37 cDOTS-137
    cDOTS-237 cDOTS-1237 cDOTS-47 cDOTS-147 cDOTS-247 cDOTS-1247 cDOTS-347 cDOTS-1347 cDOTS-2347
    cDOTS-12347 cDOTS-57 cDOTS-157 cDOTS-257 cDOTS-1257 cDOTS-357 cDOTS-1357 cDOTS-2357 cDOTS-12357
    cDOTS-457 cDOTS-1457 cDOTS-2457 cDOTS-12457 cDOTS-3457 cDOTS-13457 cDOTS-23457 cDOTS-123457
    cDOTS-67 cDOTS-167 cDOTS-267 cDOTS-1267 cDOTS-367 cDOTS-1367 cDOTS-2367 cDOTS-12367 cDOTS-467
    cDOTS-1467 cDOTS-2467 cDOTS-12467 cDOTS-3467 cDOTS-13467 cDOTS-23467 cDOTS-123467 cDOTS-567
    cDOTS-1567 cDOTS-2567 cDOTS-12567 cDOTS-3567 cDOTS-13567 cDOTS-23567 cDOTS-123567 cDOTS-4567
    cDOTS-14567 cDOTS-24567 cDOTS-124567 cDOTS-34567 cDOTS-134567 cDOTS-234567 cDOTS-1234567
    cDOTS-8 cDOTS-18 cDOTS-28 cDOTS-128 cDOTS-38 cDOTS-138 cDOTS-238 cDOTS-1238 cDOTS-48 cDOTS-148
    cDOTS-248 cDOTS-1248 cDOTS-348 cDOTS-1348 cDOTS-2348 cDOTS-12348 cDOTS-58 cDOTS-158 cDOTS-258
    cDOTS-1258 cDOTS-358 cDOTS-1358 cDOTS-2358 cDOTS-12358 cDOTS-458 cDOTS-1458 cDOTS-2458
    cDOTS-12458 cDOTS-3458 cDOTS-13458 cDOTS-23458 cDOTS-123458 cDOTS-68 cDOTS-168 cDOTS-268
    cDOTS-1268 cDOTS-368 cDOTS-1368 cDOTS-2368 cDOTS-12368 cDOTS-468 cDOTS-1468 cDOTS-2468
    cDOTS-12468 cDOTS-3468 cDOTS-13468 cDOTS-23468 cDOTS-123468 cDOTS-568 cDOTS-1568 cDOTS-2568
    cDOTS-12568 cDOTS-3568 cDOTS-13568 cDOTS-23568 cDOTS-123568 cDOTS-4568 cDOTS-14568 cDOTS-24568
    cDOTS-124568 cDOTS-34568 cDOTS-134568 cDOTS-234568 cDOTS-1234568 cDOTS-78 cDOTS-178 cDOTS-278
    cDOTS-1278 cDOTS-378 cDOTS-1378 cDOTS-2378 cDOTS-12378 cDOTS-478 cDOTS-1478 cDOTS-2478
    cDOTS-12478 cDOTS-3478 cDOTS-13478 cDOTS-23478 cDOTS-123478 cDOTS-578 cDOTS-1578 cDOTS-2578
    cDOTS-12578 cDOTS-3578 cDOTS-13578 cDOTS-23578 cDOTS-123578 cDOTS-4578 cDOTS-14578 cDOTS-24578
    cDOTS-124578 cDOTS-34578 cDOTS-134578 cDOTS-234578 cDOTS-1234578 cDOTS-678 cDOTS-1678
    cDOTS-2678 cDOTS-12678 cDOTS-3678 cDOTS-13678 cDOTS-23678 cDOTS-123678 cDOTS-4678 cDOTS-14678
    cDOTS-24678 cDOTS-124678 cDOTS-34678 cDOTS-134678 cDOTS-234678 cDOTS-1234678 cDOTS-5678
    cDOTS-15678 cDOTS-25678 cDOTS-125678 cDOTS-35678 cDOTS-135678 cDOTS-235678 cDOTS-1235678
    cDOTS-45678 cDOTS-145678 cDOTS-245678 cDOTS-1245678 cDOTS-345678 cDOTS-1345678 cDOTS-2345678
    cDOTS-12345678 aaj_jq_ag_ad_ap_av ean_ap_av aao_an_ag_ad_ap_av aaj_an_ag_ad_ap_av
    aax_ak_an_ag_ad_ap_av aaj_jq_ag_mi_gh aao_an_ag_mi_gh aaj_an_ag_mi_gh aba_ag_ad_au_av
    abr_ag_ad_au_av bev_ag aba_ev_ag aao_an_jw_ag aaj_an_jw_ag aao_ev_jw_ag aaj_ev_jw_ag
    bjq_ev_jw_ag bag_ad_gb_STEM abr_ag_TO_gh aba_ag_TO_gh aaj_ag_ad_ia_ad_ap_av fan_ap_av
    bjq_ag_ad_ia fad_ap_av gan_ap_av aao_wy aaj_wy aao_an_wy aaj_an_wy aao_ag_TO_az_em
    aaj_ag_TO_az_em aao_ag_mi_gh_TO_az_em aaj_ag_mi_gh_TO_az_em agl_ig_bk_ha_he_ag bhe_bk_ha_ig_ag
    big_ag_ad_by bhe_ag_ad_by aha_he_ag_ad_by big_ag_ad_by agl_ig_ag_bk_gl_he_ag bhe_ag_bk_ha_he_ag
    aha_he_ag_bk_ha_ig_ag big_ag_bk_gl_ig_ag aot_dn_es_vx_dn avx_dn_es_ot_dn aha_he_ag_es_gl_he_ag
    agl_he_ag_es_ha_he_ag avx_dn_es_gl_he_ag aot_dn_es_ha_he_ag agl_he_ag_es_gl_ig_ag
    big_ag_es_gl_he_ag ars_ag_cd_DIRECTLY_ak aag_cd_aj_THEN_CURVING_br fba cba_THEN_CURVING_ao faj
    aRIGHT-SIDE_ARC_jd_ag aLEFT-SIDE_ARC_en_ag asg_ARC_en_ag ahb_ARC_en_ag asg_ARC_jd_ag_ad_ok
    cen_ag_ad_db acw_ak_zv_jd_ag bax_zv_en_ag aen_go_bq_ag ajd_go_bq_ag aaj_ag_al_fw_ao_ag
    aao_ag_al_fw_aj_ag afw_aj_ag_al_ao_ag aaj_ag_ad_db_as aao_ag_ad_db_as aaj_ag_li_X
    aax_ak_ag_li_af_bq abr_jq_ag_mi_af_bq aax_eq_UP_ak_eq_di_dg cdi_ak_eq_UP_dg
    aUP_eq_ak_di_eq_ax_dg cax_di_eq_ak_dg aax_eq_UP_ak_eq_UP_dg aUP_eq_ak_di_eq_ak_dg
    aax_eq_di_ak_eq_di_dg aUP_eq_ax_di_eq_ax_dg aao_dg_ad_eq_UP_TO_gh aaj_dg_ad_eq_UP_TO_gh
    abr_dg_ad_eq_ak_TO_gh aba_dg_ad_eq_ak_TO_gh aao_dg_ad_eq_di_TO_gh aaj_dg_ad_eq_di_TO_gh
    abr_dg_ad_eq_ax_TO_gh aba_dg_ad_eq_ax_TO_gh aao_dg_ad_eq_UP_mi_gh aaj_dg_ad_eq_UP_mi_gh
    abr_dg_ad_eq_ak_mi_gh aba_dg_ad_eq_ak_mi_gh aao_dg_ad_eq_di_mi_gh aaj_dg_ad_eq_di_mi_gh
    abr_dg_ad_eq_ax_mi_gh aba_dg_ad_eq_ax_mi_gh aao_dg_ad_eq_UP_al_ao_dg_ad_eq_di
    abr_dg_ad_eq_ax_sl_br_dg_ad_eq_ak aaj_dg_ad_eq_UP_al_aj_dg_ad_eq_di
    aba_dg_ad_eq_ax_sl_ba_dg_ad_eq_ak aao_dg_ad_eq_UP_al_aj_dg_ad_eq_UP edi_al_aj_dg_ad_eq_di
    aaj_dg_ad_eq_UP_al_ao_dg_ad_eq_UP edi_al_ao_dg_ad_eq_di aao_dg_ad_eq_UP_al_fm_jw edi_as_fm_jw
    aaj_dg_ad_eq_UP_al_fm_jw edi_as_fm_jw abr_dg_ad_eq_ax_sl_ba_dg_ad_eq_ak
    aba_dg_ad_eq_ax_sl_br_dg_ad_eq_ak aak_an_ag_ad_pg_ty agq_am_al_aj_ag acs_dq_al_aj_ag
    aao_ag_al_cs_dq aaj_ag_al_cs_dq dma_cm_TO abw_al_ao_ag aao_ag_li_bw abj_al_aj_ag aik_al_aj_ag
    aao_ag_li_ik agn_al_ao_ag aax_FISH_ia aak_FISH_ia aUP_FISH_ia adi_FISH_ia aev_ap_gh_DELIMITER
    aZ_qi_SPOT cTYPE_iv aax_be_kg_bf aak_be_kg_bf aax_be_cf aak_be_cf aZ_qi_ax_IMAGE_bf
    cak_IMAGE_bf cax_BINDING_bf cak_BINDING_bf aax_bp_bf_ad_gf aak_bp_bf_ad_gf
    aax_bp_bf_ad_TICK_IN_sg_hc aak_bp_bf_ad_TICK_IN_hb_hc aax_bp_bf_ad_TICK_IN_hb_hc
    aak_bp_bf_ad_TICK_IN_sg_hc aax_ft_bf_ad_dc aak_ft_bf_ad_dc aax_ARC_bw_bf aak_ARC_bj_bf
    aan_ax_ARC_bj_bf bak_ARC_bw_bf aax_az_if_ld_bf aak_az_if_ld_bf agb_FENCE aap_ya_ge
    azh_ft_OPENING_ax aak_ft_ib_ad_bp azh_ak_ft_ad_dc aft_ad_S_kp ade_ft aSPHERICAL_ft_OPENING_ax
    dUP acj_ft abs_ft aft_ad_gf abs_ft_ad_gf akv_ft_OPENING_UP ddi
    azh_ft_ad_fj_ARM_ENDING_IN_ag_cd_UP_bk_ak lax jdi_bk_ak lax jak_bk_UP jax_bk_UP jak_bk_di
    jax_bk_di abs_EMPTY_SET aEMPTY_SET_ad_ly daf_bq_al dak_ag_al dax_ag_al abq_ad_au_gh adm_ap_gh
    bqm bhy_hl bwr abq_DIVIDED_BY_au_gh_bk_sg_dj_DIVIDED_BY_ap_gh bad_SUPERIMPOSED_X
    adm_ANTICLOCKWISE-ROTATED_pu_am aUP_ag_li_bq adm_be_nh bnh bbw bbj abq_ad_af_bq_TO_ua_ak
    ccn_au_STROKES_TO_ua_ak afe_ot_dn_qp bvx_dn_qp bdk baf_bq bbp acn_JOINED_SQUARES abi_ad_dc_al
    cgf aS_IN_bi abi_ad_SERIFS_AT_hb aak_bi_al_ax_bi aax_bi_sl_ap_gh aap_gh_sl_ak_bi
    aBOWTIE_ad_ax_dj_az cak_dj_az aaz_BOWTIE abu_ad_ax_dj_az cak_dj_az abe_HOURGLASS aaz_HOURGLASS
    aax_WIGGLY_FENCE aak_WIGGLY_FENCE aax_an_WIGGLY_FENCE aak_an_WIGGLY_FENCE aINCOMPLETE_uu
    aTIE_dz_uu auu_NEGATED_ad_ap_gh aDOUBLE-ENDED_MULTIMAP abp_ad_CONTOURED_OUTLINE aINCREASES_AS
    aSHUFFLE_lz agq_am_bk_hz_qm fad_cs_al aIDENTICAL_TO_bk_hz_qm aGLEICH_STARK aTHERMODYNAMIC
    agx_bi_ad_ax_dj_az dak_dj_az aaz_em_ad_di_ag blw abe_bq_ad_di_ag aaz_bq_ad_di_ag
    aERROR-BARRED_be_bp baz_bp bbe_em baz_em bbe_bq baz_bq aRULE-DELAYED ahy_hl_dq ahl_ad_ly
    ahy_hl_ad_au_av aBIG_hl bhy_hl aan_db aev_db aec_rl_ft_bf add_rl_ft_bf aTINY aMINY
    aN-ARY_dm_dc_dq cdb_dq cbu_dq bpa_dq_ad_dc edb bbp_fg_dq cpa_dq acn_lv_bk_dq cOR_dq
    aN-ARY_bu_dq aMODULO_cn_SUM aSUMMATION_ad_ht akn_ht_dq aFINITE_PART_ht aht_ad_an_av
    bAVERAGE_ad_qp aCIRCULATION_FUNCTION aen_INTEGRATION
    age_INTEGRATION_ad_RECTANGULAR_PATH_AROUND_POLE dzv_PATH_AROUND_POLE cmw_INCLUDING_ua_POLE
    aht_AROUND_A_tu_dq aQUATERNION_ht_dq aht_ad_ao_ag_ad_by cbu_am cfg cpa cly cgf aJOIN
    aeh_ax_bi_dq aZ_qi_SCHEMA_COMPOSITION dPIPING dPROJECTION adb_am_ad_af_bq_al dbg_fv_al dcs_al
    ddc_as dcs_as dpo_cn daz_bi aok_am_ad_ew_al ddc_as dvx_dw dot_dw adb_am_IN_ax_dj_bq dak_dj_bq
    aVECTOR_OR_gu_lz agy_am_ad_dc_al dgf ath_lz_ad_hb_go aSMASH_lz agy_am_IN_ax_dj_bq dak_dj_bq
    adm_gy_am_ad_bg_fv agy_am_IN_an_bq adm_pu_am adb_am_IN_bi aok_am_IN_bi agy_am_IN_bi
    aINTERIOR_lz aRIGHTHAND_INTERIOR_lz aZ_qi_RELATIONAL_COMPOSITION aAMALGAMATION_OR_COPRODUCT
    afg_ad_dc apa_ad_ok_am cly afg_ad_ly clv_bk apa_ad_lv_OR bal_fg afg_al_pa apa_al_gh_al_fg
    afg_al_gh_al_pa apa_sl_bk_JOINED_ad_pa afg_sl_bk_JOINED_ad_fg ago_pa_ad_SERIFS bfg_ad_SERIFS
    aan_bp_fg cpa ago_pa_ad_SERIFS_bk_SMASH_lz alv_bk_ad_dc_al bOR_ad_dc_al aan_lv_bk cOR
    acn_INTERSECTING_lv_bk dOR aSLOPING_eh_OR cbk alv_OR_OVERLAPPING_lv_bk bbk_ad_bd_STEM
    bOR_ad_bd_STEM bbk_ad_au_jw bOR_ad_au_jw bbk_ad_an_ly dgf dan_gf aaf_VEE_ad_gf alv_OR_ad_an_ly
    egf aZ_qi_DOMAIN_ANTIRESTRICTION cRANGE_ANTIRESTRICTION agq_am_ad_dc_as aIDENTICAL_ad_dc_al
    aev_au_gh_ad_an_ap_av eev_ap_av acs_dq_ad_dc_al dot_dw awd_ok_wd aCONGRUENT_ad_dc_al agq_ad_dk
    ama_cm_TO_ad_bg_fv anw_cm_OR_cm_TO agq_am_al_db_am adb_am_al_gq_am agq_am_al_cs_dq aan_iv_cm
    acn_CONSECUTIVE_gq_SIGNS aay_CONSECUTIVE_gq_SIGNS agq_am_ad_cn_dw_al_bk_cn_dw_as
    ahi_ad_bv_dw_al abw_ad_bq_kp abj_ad_bq_kp abw_ad_ff_bl_al abj_ad_ff_bl_al abw_OR_hz_cm_TO
    abj_OR_hz_cm_TO abw_OR_hz_cm_TO_ad_dc_kp abj_OR_hz_cm_TO_ad_dc_kp abw_OR_hz_cm_TO_ad_dc_al
    abj_OR_hz_cm_TO_ad_dc_al abw_OR_hz_cm_TO_ad_dc_al_ak abj_OR_hz_cm_TO_ad_dc_al_ax abw_OR_ug
    abj_OR_ug abw_bk_op_mw_cm_TO abj_bk_op_mw_cm_TO abw_bk_mw_ug abj_bk_mw_ug abw_al_od_cm_al_bj
    abj_al_od_cm_al_bw abw_al_wd_OR_cm abj_al_wd_OR_cm abw_al_wd_al_bj abj_al_wd_al_bw
    abw_al_bj_al_od_cm abj_al_bw_al_od_cm abw_al_hz_cm_al_bj_al_hz_cm abj_al_hz_cm_al_bw_al_hz_cm
    ahz_cm_TO_OR_bw ebj ebw_ad_dc_kp ebj_ad_dc_kp aod_cm_TO_OR_bw ebj bhz_cm_TO_OR_bw fbj awd_OR_bw
    cbj bal_bw_al_gq_am cbj_al_gq_am aan_NESTED_bw cbj cbw_ad_gf abj_OVERLAPPING_bw bsl_bw
    abw_go_BY_oc abj_go_BY_oc abw_go_BY_oc_al_hz_cm abj_go_BY_oc_al_hz_cm aSMALLER_THAN
    aLARGER_THAN aSMALLER_THAN_OR_cm_TO aLARGER_THAN_OR_cm_TO agq_am_ad_BUMPY_al akj_al_op_gq_am
    akm_al_op_gq_am akj_al_op_mw_cm_TO akm_al_op_mw_cm_TO akj_al_gq_am akm_al_gq_am akj_al_mw_cm_TO
    akm_al_mw_cm_TO akj_al_ma_cm_TO akm_al_ma_cm_TO akj_al_mw_ma_cm_TO akm_al_mw_ma_cm_TO aan_kj
    bkm aik_ad_dc agn_ad_dc aik_ad_db_am_as agn_ad_db_am_as aik_ad_gy_am_as agn_ad_gy_am_as
    aik_OF_OR_cm_TO_ad_dc_al agn_OF_OR_cm_TO_ad_dc_al aik_OF_al_gq_am agn_OF_al_gq_am
    aik_OF_al_cs_dq agn_OF_al_cs_dq aik_OF_al_ma_cm_TO agn_OF_al_ma_cm_TO aik_OF_al_mw_cm_TO
    agn_OF_al_mw_cm_TO abp_ax_fj_BOX_dq bak_fj_BOX_dq ago_ik bgn bik_OR_cm_TO bgn_OR_cm_TO
    aik_al_gn agn_al_ik aik_al_ik agn_al_gn bsl_ik cbk_JOINED_BY_jw_ad_ik apc_OF_OPENING_ba
    aPITCHFORK_ad_TEE_sg aTRANSVERSAL_fg aFORKING aNONFORKING afw_ax_ll bdi_ll bUP_ll awr_ad_S
    aap_gh_ev_ak_nr aan_ap_gh_ax_nr aap_gh_an_ax_nr aan_ap_gh_an_ax_nr afm_jw_mi_ax_MEMBER_OF_an_ap
    afw_di_ll_ad_ly bUP_ll_ad_gf dal_fw_di_ll aan_di_ll bUP_ll bav_mw_am abs_an_av_mw_am
    aDOES_mw_DIVIDE_ad_bs_NEGATION_qp aap_ge_ad_bq_al eas adi_ll_ad_bq_as aqm_ad_au_av ccs_dq
    aev_ap_gh_BINARY_RELATION dad_au_av biv_dq bNESTED_bw cbj aod_hz_bw_OR_cm_TO cbj_OR_cm_TO
    aev_hl_BINARY_RELATION aeh_ev_ap_gh_dq aan_hl_dq abe_ap_gh aN-ARY_be_ap_gh agl_he_be_ag
    big_be_ag aha_he_be_ag big_be_ag aax_ak_be_ag aao_az_ag abr_az_ag aba_az_ag agl_he_az_ag
    big_az_ag aha_he_az_ag big_az_ag aax_ak_az_ag aUP_di_az_ag aaj_ag_ad_TIP_ba ebr
    aao_ag_ad_TIP_ba ebr abp_ad_sg_dj_az chb_dj_az cdt_ak_dn_dj_az ccw_ax_dn_dj_az aem_ad_ax_dj_az
    cak_dj_az csg_dj_az chb_dj_az agb_bp aaz_eh_bp abe_eh_bp aaz_nu_af_bp abe_nu_af_bp aaz_zm
    abe_zm bHEXAGON aaz_HEXAGON aau_az_HEXAGON aaz_eh_bq bcg_em abe_cg_em aaz_cg_lw abe_cg_lw
    aaz_af_em clw abe_af_lw aaz_au_ELLIPSE abe_au_ELLIPSE aaz_ap_ELLIPSE abe_ap_ELLIPSE
    aax_ag_ad_af_bq aay_ao_mb aax_ag_ad_dm_db afm_ao_SQUIGGLE_ag aao_jq_ag_ad_ap_av ean_ap_av
    dmi_gh cev_jw_ag bag_ad_gb_STEM dia_ad_ap_av fan_ap_av bjq_ag_ad_ia fad_ap_av gan_ap_av
    bag_li_X ars_ag_cd_DIRECTLY_ax agq_am_al_ao_ag ahy_cs_dq_al_ao_ag aao_ag_al_hy_ma_cm_TO
    aaj_ag_li_bj dgn aao_kn_ag aaj_kn_ag ahy_cs_dq_al_aj_ag aaj_ag_al_hy_ma_cm_TO acs_dq_al_ao_ag
    aao_ag_al_ma_cm_TO dhy_cs_dq aaj_ag_al_hy_cs_dq aba_aq_ya_ag afw_hz_gl_ag bBACKSLANTED_ha_ag
    abe_cg_hm aaz_af_hm abe_af_hm aaz_dd_zm abe_dd_zm abn_eh_bq bOVAL_ad_OVAL_kp bbq_ad_bq_kp c
    bdm_ob ahz_gl_ag_ad_HOOKED_ty aBACKSLANTED_ha_ag_ad_HOOKED_ia ahz_gl_ag_ad_au_ia
    aBACKSLANTED_ha_ag_ad_au_ia amm_ag_cd_ba_THEN_gl_he afw_mm_ag_cd_ba_THEN_gl_he aao_aq_ag
    abr_aq_ag aaj_aq_ag aba_aq_ag aax_ak_aq_ag aUP_di_aq_ag agl_ig_aq_ag bhe_aq_ag aha_he_aq_ag
    big_aq_ag aao_aq_or_ag abr_aq_or_ag aaj_aq_or_ag aba_aq_or_ag ajd_aq_fj_bq_ag aen_aq_fj_bq_ag
    aao_aq_ag_TO_gh abr_aq_ag_TO_gh aaj_aq_ag_TO_gh aba_aq_ag_TO_gh =2B76 agl_ig_aq_ag_TO_gh
    bhe_aq_ag_TO_gh aha_he_aq_ag_TO_gh big_aq_ag_TO_gh aao_aq_ag_ad_an_au_av abr_aq_ag_ad_an_au_av
    aaj_aq_ag_ad_an_au_av aba_aq_ag_ad_an_au_av aau_TAB_KEY aap_TAB_KEY aao_aq_ag_dz_aj_aq_ag
    abr_aq_ag_ao_OF_ba_aq_ag aaj_aq_ag_dz_ao_aq_ag aba_aq_ag_ao_OF_br_aq_ag aao_aq_xn_mb
    abr_aq_xn_mb aaj_aq_xn_mb aba_aq_xn_mb aao_az_dm_be_ag abr_az_dm_be_ag aaj_az_dm_be_ag
    aba_az_dm_be_ag aen_aq_ak_U-SHAPED_ag chb_U-SHAPED_ag cax_U-SHAPED_ag csg_U-SHAPED_ag
    aRETURN_ax bak aNEWLINE_ax bak abv_hc_mb_CIRCLING_en aaj_az_ag =2B97 aaw_tq_TYPE_A_ELECTRONICS
    aTHREE-D_TOP-LIGHTED_ao_eg_bo bRIGHT-LIGHTED_br_eg_bo bTOP-LIGHTED_aj_eg_bo
    bLEFT-LIGHTED_ba_eg_bo aaz_ao_eg_bo bbr_eg_bo baj_eg_bo bba_eg_bo aba_aq_ag_ad_fm_TIP_ao gaj
    abr_aq_ag_ad_fm_TIP_ao gaj aao_aq_ag_ad_fm_TIP_br aaj_aq_ag_ad_fm_TIP_br aao_aq_ag_ad_fm_TIP_ba
    aaj_aq_ag_ad_fm_TIP_ba aaz_rl_ba_bk_ao_ag eaj_ag cbr_bk_ao_ag eaj_ag cao_bk_br_ag caj_bk_br_ag
    cao_bk_ba_ag caj_bk_ba_ag aRIBBON_ag_di_ax dak cUP_ax dak cax_UP cak_UP cax_di cak_di
    abr_be_ag_mi_gh_ad_au_gh aUP_bo_IN_A_pn_BOX aOVERLAPPING_be_SQUARES cbk_az_SQUARES baz_SQUARES
    aBALLOT_BOX_ad_co_X adm_X bnc_X aaz_bp_so bem_so acj_az_zm aau_az_OCTAGON aaz_OCTAGON
    bcg_hf_bi_so cgx_bi_so cec_bi_so cdd_bi_so aNEPTUNE_ah_cn asg_dj_az_bq ahb_dj_az_bq
    aco_bv_fd_az_CUSP acr_co_bv_fd_az_CUSP abe_bv_fd_CUSP acr_be_bv_fd_CUSP abp_POSITION_nm
    aUNCERTAINTY_am aGROUP_bl aPLUTO_ah_cn cay cbv cca aTRANSPLUTO aPROSERPINA aASTRAEA aHYGIEA
    aPHOLUS aNESSUS abe_os_SELENA aaz_em_ON_gu aTRUE_co_os_ARTA aCUPIDO aHADES aZEUS aKRONOS
    aAPOLLON aADMETOS aVULCANUS aPOSEIDON aax_dj_az_hm aak_dj_az_hm ahm_ad_ax_dj_az cak_dj_az
    aao_jq_ag_ad_bi_wz abr_jq_ag_ad_bi_wz aaj_jq_ag_ad_bi_wz aba_jq_ag_ad_bi_wz aERIS_ah_cu ccn
    aSEDNA aRUSSIAN_ASTROLOGICAL_aw_VIGINTILE dNOVILE dQUINTILE dBINOVILE dSENTAGON dTREDECILE
    agq_am_ad_uu_as aUNITED_aw aSEPARATED_aw aDOUBLED_aw aPASSED_aw abs_ak_ft
    aHELLSCHREIBER_PAUSE_aw aGLAGOLITIC_ae_ac_AZU dBUKY dVEDE dGLAGOLI dDOBRO dYESTU dZHIVETE
    dDZELO dZEMLJA dIZHE dar_IZHE dI dDJERVI dKAKO dLJUDIJE dMYSLITE dNASHI dONU dPOKOJI dRITSI
    dSLOVO dTVRIDO dUKU dFRITU dHERU dOTU dPE dSHTA dTSI dCHRIVI dkx dYERU dYERI dYATI dSPIDERY_HA
    dYU daf_YUS fad_ia dYO dyz_af_YUS dBIG_YUS dyz_BIG_YUS dFITA dza dSHTAPIC dTROKUTASTI_A
    dLATINATE_MYSLITE dCAUDATE_CHRIVI baf_ac_AZU dBUKY dVEDE dGLAGOLI dDOBRO dYESTU dZHIVETE dDZELO
    dZEMLJA dIZHE dar_IZHE dI dDJERVI dKAKO dLJUDIJE dMYSLITE dNASHI dONU dPOKOJI dRITSI dSLOVO
    dTVRIDO dUKU dFRITU dHERU dOTU dPE dSHTA dTSI dCHRIVI dkx dYERU dYERI dYATI dSPIDERY_HA dYU
    daf_YUS fad_ia dYO dyz_af_YUS dBIG_YUS dyz_BIG_YUS dFITA dza dSHTAPIC dTROKUTASTI_A
    dLATINATE_MYSLITE dCAUDATE_CHRIVI afu_ae_ac_L_ad_an_gh baf_ac_L_ad_an_gh bae_ac_L_ad_bd_cs
    dP_ad_av dR_ad_ia baf_ac_A_ad_av dT_ad_dn_av bae_ac_H_ad_df baf_ac_H_ad_df bae_ac_K_ad_df
    baf_ac_K_ad_df bae_ac_Z_ad_df baf_ac_Z_ad_df bae_ac_ip dM_ad_by dcj_A eip baf_ac_V_ad_ak_by
    bae_ac_W_ad_by baf_ac_W_ad_by dV_ad_rk bae_ac_dj_H baf_ac_dj_H dTAILLESS_PHI dE_ad_NOTCH
    dcj_R_ad_ia dO_ad_iy_el_kp bac_af_ae_cj_E bpo_af_ac_J aez_ac_ae_V afu_ae_ac_S_ad_SWASH_ia
    dZ_ad_SWASH_ia ain_ae_ac_ALFA baf_ac_ALFA bae_ac_VIDA baf_ac_VIDA bae_ac_ln baf_ac_ln
    bae_ac_DALDA baf_ac_DALDA bae_ac_EIE baf_ac_EIE bae_ac_SOU baf_ac_SOU bae_ac_ZATA baf_ac_ZATA
    bae_ac_HATE baf_ac_HATE bae_ac_THETHE baf_ac_THETHE bae_ac_IAUDA baf_ac_IAUDA bae_ac_KAPA
    baf_ac_KAPA bae_ac_LAULA baf_ac_LAULA bae_ac_MI baf_ac_MI bae_ac_NI baf_ac_NI bae_ac_KSI
    baf_ac_KSI bae_ac_O baf_ac_O bae_ac_PI baf_ac_PI bae_ac_RO baf_ac_RO bae_ac_SIMA baf_ac_SIMA
    bae_ac_TAU baf_ac_TAU bae_ac_UA baf_ac_UA bae_ac_FI baf_ac_FI bae_ac_KHI baf_ac_KHI bae_ac_PSI
    baf_ac_PSI bae_ac_OOU baf_ac_OOU bae_ac_nk_ef baf_ac_nk_ef bae_ac_ol_in_wl baf_ac_ol_in_wl
    bae_ac_iq_EIE baf_ac_iq_EIE bae_ac_nk_KAPA baf_ac_nk_KAPA bae_ac_nk_NI baf_ac_nk_NI
    bae_ac_iq_NI baf_ac_iq_NI bae_ac_ol_in_OOU baf_ac_ol_in_OOU bae_ac_SAMPI baf_ac_SAMPI
    bae_ac_lt_SHEI baf_ac_lt_SHEI bae_ac_ol_in_SHEI baf_ac_ol_in_SHEI bae_ac_ol_in_ESH
    baf_ac_ol_in_ESH bae_ac_AKHMIMIC_KHEI baf_ac_AKHMIMIC_KHEI bae_ac_nk_HORI baf_ac_nk_HORI
    bae_ac_ol_in_HORI baf_ac_ol_in_HORI bae_ac_ol_in_HA baf_ac_ol_in_HA bae_ac_L-SHAPED_HA
    baf_ac_L-SHAPED_HA bae_ac_ol_in_HEI baf_ac_ol_in_HEI bae_ac_ol_in_HAT baf_ac_ol_in_HAT
    bae_ac_ol_in_GANGIA baf_ac_ol_in_GANGIA bae_ac_ol_in_DJA baf_ac_ol_in_DJA bae_ac_ol_in_SHIMA
    baf_ac_ol_in_SHIMA bae_ac_ol_ve_SHIMA baf_ac_ol_ve_SHIMA bae_ac_ol_ve_NGI baf_ac_ol_ve_NGI
    bae_ac_ol_ve_NYI baf_ac_ol_ve_NYI bae_ac_ol_ve_WAU baf_ac_ol_ve_WAU baw_KAI cMI_RO cPI_RO
    cSTAUROS cTAU_RO cKHI_RO cSHIMA_SIMA bae_ac_iq_SHEI baf_ac_iq_SHEI bae_ac_iq_GANGIA
    baf_ac_iq_GANGIA bdl_NI_al cSPIRITUS_ASPER dLENIS bae_ac_BOHAIRIC_KHEI baf_ac_BOHAIRIC_KHEI
    =2CF9 bol_ve_ii_gg dDIRECT_ff_bl dINDIRECT_ff_bl dVERSE_yq bhs_cu_dj bii_gg bMORPHOLOGICAL_yq
    ayv_af_ac_AN dBAN dGAN dDON dEN dVIN dZEN dTAN dIN dKAN dLAS dMAN dNAR dON dPAR dZHAR dRAE dSAN
    dTAR dUN dPHAR dKHAR dGHAN dQAR dmz dCHIN dCAN dJIL dCIL dCHAR dXAN dJHAN dHAE dHE dHIE dWE
    dHAR dHOE =2D27 dYN =2D2D dAEN =2D30 aTIFINAGH_ac_YA cYAB cYABH cYAG cYAGHH cBERBER_ACADEMY_YAJ
    cYAJ cYAD cYADH cYADD cYADDH cYEY cYAF cYAK cTUAREG_YAK cYAKHH cYAH cBERBER_ACADEMY_YAH
    cTUAREG_YAH cYAHH cYAA cYAKH cTUAREG_YAKH cYAQ cTUAREG_YAQ cYI cYAZH cAHAGGAR_YAZH cTUAREG_YAZH
    cYAL cYAM cYAN cTUAREG_YAGN dYANG cYAP cYU cYAR cYARR cYAGH cTUAREG_YAGH cAYER_YAGH cYAS cYASS
    cYASH cYAT cYATH cYACH cYATT cYAV cYAW cYAY cYAZ cTAWELLEMET_YAZ cYAZZ cYE cYO =2D6F
    bez_ac_LABIALIZATION_bl bee_bl =2D7F bfs_JOINER aETHIOPIC_il_LOA cMOA cROA cSOA cSHOA cBOA cTOA
    cCOA cNOA cNYOA cgr_OA cZOA cDOA cDDOA cJOA cTHOA cCHOA cPHOA cPOA cGGWA cGGWI cGGWEE cGGWE
    =2DA0 csj cSSU cSSI cSSAA cSSEE cSSE cSSO =2DA8 cCCA cCCU cCCI cCCAA cCCEE cCCE cCCO =2DB0 cZZA
    cZZU cZZI cZZAA cZZEE cZZE cZZO =2DB8 cCCHA cCCHU cCCHI cCCHAA cCCHEE cCCHE cCCHO =2DC0 cQYA
    cQYU cQYI cQYAA cQYEE cQYE cQYO =2DC8 cKYA cKYU cKYI cKYAA cKYEE cKYE cKYO =2DD0 cXYA cXYU cXYI
    cXYAA cXYEE cXYE cXYO =2DD8 cGYA cGYU cGYI cGYAA cGYEE cGYE cGYO =2DE0 adl_jv_ac_BE dVE dGHE
    dDE dZHE dZE dKA dEL dEM dEN dO dPE dER dES dTE dHA dTSE dCHE dkx dSHCHA dFITA dES-TE dA dIE
    dDJERV dMONOGRAPH_UK dYAT dYU dix_A ded_YUS dBIG_YUS dix_BIG_YUS aak_ft_na_xl cgb_na_xl
    aax_na_bf aak_na_bf aax_gb_na_bf aak_gb_na_bf aij_INTERPOLATION_xl bgb_INTERPOLATION_xl
    agb_ww_xl aax_ww_bf aak_ww_bf aij_bp aax_ij_OMISSION_bf aak_ij_OMISSION_bf aEDITORIAL_CORONIS
    aPARAGRAPHOS aFORKED_PARAGRAPHOS abs_FORKED_PARAGRAPHOS aHYPODIASTOLE agb_OBELOS aba_ANCORA
    abr_ANCORA agb_dd_ft aan_kv_qd acc_rc aPALM_BRANCH aqd_ad_bm acs_ad_el_al aax_iy_PARAPHRASE_bf
    aak_iy_PARAPHRASE_bf acs_ad_dc_al das aax_ap_gh_ad_QUILL aak_ap_gh_ad_QUILL asg_ax_dj_bf
    bak_dj_bf ahb_ax_dj_bf bak_dj_bf aax_oo_U_bf aak_oo_U_bf aax_an_cf aak_an_cf acn_dw_dz_cu_dc_ce
    acu_dc_dz_cn_dw_ce afe_bv_dc_ce aca_dc_bl abs_ff_bl aap_cs ael_tu aWORD_ee_bd_dc acj_ew aij_dc
    bew acj_jy aDAGGER_ad_ax_GUARD cak_GUARD acj_DAGGER asg_dj_hk_am aTWO-EM_jw aTHREE-EM_jw
    aSTENOGRAPHIC_ii_gg aap_ga_dw aWIGGLY_ap_ge aCAPITULUM aan_qd abs_ew aan_LOW-REVERSED-9_ej_bl
    ajw_ad_ax_UPTURN aan_SUSPENSION_bl acc_iy_KAVYKA dad_KAVYKA_al aiy_KAVYKA cad_dc aan_STACKED_ew
    agb_hl aev_DAGGER aMEDIEVAL_ew aPARAGRAPHUS_bl aPUNCTUS_ELEVATUS_bl aCORNISH_VERSE_yq
    agu_PATTY_ad_ak_CROSSBAR dax_CROSSBAR aTIRONIAN_am_ae_ET aMEDIEVAL_dy_bl bff_bl aax_bp_bf_ad_av
    aak_bp_bf_ad_av aax_bp_bf_ad_an_av aak_bp_bf_ad_an_av asg_dj_ax_cf cak_cf ahb_dj_ax_cf cak_cf
    akv_qd =2E80 aCJK_RADICAL_REPEAT cCLIFF cSECOND_cu dcn day cme cBOX cTABLE cKNIFE_cu dcn
    cDIVINATION cSEAL caf_cu dcn cLAME_cu dcn day dbv cSNAKE cTHREAD cSNOUT_cu dcn cjr_cu dcn cmj
    cRAP =2E9B cCHOKE cSUN cos cDEATH cMOTHER cCIVILIAN ctw_cu dcn cFIRE cPAW_cu dcn
    cxu_dj_TREE_TRUNK cCOW cDOG cJADE cBOLT_OF_CLOTH cEYE cSPIRIT_cu dcn cBAMBOO cSILK cgd_SILK
    cNET_cu dcn day dbv cMESH cSHEEP cRAM cEWE col cBRUSH_cu dcn cMEAT cMORTAR cGRASS_cu dcn day
    cTIGER cCLOTHES cig_cu dcn cgd_SEE cxu_lk clk cgd_SPEECH dld cFOOT cgd_CART cxu_WALK cWALK_cu
    dcn cCITY cgd_GOLD cfm_cu dcn cgd_fm dGATE cMOUND_cu dcn cRAIN cBLUE cgd_TANNED_LEATHER dro
    dWIND dFLY cEAT_cu dcn day cgd_EAT cty cgd_HORSE cBONE cGHOST cgd_FISH dBIRD dSALT cxu_WHEAT
    dYELLOW cgd_FROG csv_EVEN cgd_EVEN csv_TOOTH cgd_TOOTH csv_xa cgd_xa cTURTLE csv_TURTLE
    cgd_TURTLE =2F00 aKANGXI_RADICAL_cu cge cdc cqp cSECOND cby ccn cLID cMAN cLEGS cENTER cbt
    cdi_BOX cCOVER cICE cTABLE cfj_BOX cKNIFE cPOWER cWRAP cSPOON cak_fj_BOX cHIDING_ENCLOSURE ckc
    cDIVINATION cSEAL cCLIFF cPRIVATE cAGAIN cmh cENCLOSURE crv cSCHOLAR cGO dSLOWLY cEVENING cBIG
    cWOMAN cCHILD cROOF cINCH caf cLAME cCORPSE cSPROUT cqf cRIVER cWORK cONESELF cTURBAN cDRY
    cfw_THREAD cgb_CLIFF cfm_STRIDE ccn_HANDS cSHOOT cBOW cSNOUT cBRISTLE cSTEP cjr cHALBERD cDOOR
    cmj cBRANCH cRAP cio cDIPPER cAXE cbp cmw cSUN cSAY cos cTREE cLACK cgg cDEATH cWEAPON cDO_mw
    cCOMPARE cFUR cCLAN cSTEAM ctw cFIRE cCLAW cFATHER can_X cdj_TREE_TRUNK cSLICE cFANG cCOW cDOG
    cPROFOUND cJADE cMELON cTILE cSWEET cLIFE cUSE cFIELD cBOLT_OF_CLOTH cSICKNESS cgb_TENT cbe
    cSKIN cqw cEYE cSPEAR cag cSTONE cSPIRIT cTRACK cGRAIN cCAVE cSTAND cBAMBOO cRICE cSILK cJAR
    cNET cSHEEP cFEATHER col cbk cPLOW cEAR cBRUSH cMEAT cMINISTER cSELF cARRIVE cMORTAR cTONGUE
    cOPPOSE cBOAT cSTOPPING cCOLOR cGRASS cTIGER cINSECT cBLOOD cWALK_ENCLOSURE cCLOTHES cig cSEE
    clk cSPEECH cVALLEY cBEAN cPIG cBADGER cld cRED cRUN cFOOT cBODY cCART cBITTER cMORNING cWALK
    cCITY cWINE cDISTINGUISH cVILLAGE cGOLD cfm cGATE cMOUND cSLAVE cfw_TAILED_BIRD cRAIN cBLUE
    cWRONG cdu cLEATHER cTANNED_LEATHER cLEEK coz cro cWIND cFLY cEAT cty cFRAGRANT cHORSE cBONE
    cTALL cHAIR cFIGHT cSACRIFICIAL_WINE cCAULDRON cGHOST cFISH cBIRD cSALT cDEER cWHEAT cHEMP
    cYELLOW cMILLET caz cEMBROIDERY cFROG cTRIPOD cDRUM cRAT cNOSE cEVEN cTOOTH cxa cTURTLE cFLUTE
    =2FF0 agw_DESCRIPTION_hv_ax_TO_ak dal_TO_as dax_TO_bd_bk_ak dal_TO_bd_bk_as dii_SURROUND
    dSURROUND_mi_al fas fax fdt_ax gak fcw_ax dOVERLAID =3000 blr bew bii_gg aDITTO_bl
    arz_INDUSTRIAL_STANDARD_aw agw_lg_bl bCLOSING_bl bds_fb aax_ft_bf aak_ft_bf aax_an_ft_bf
    aak_an_ft_bf aax_hc_bf aak_hc_bf aax_be_hc_bf aak_be_hc_bf aax_az_lb_bf aak_az_lb_bf aPOSTAL_bl
    aGETA_bl aax_if_ld_bf aak_if_ld_bf aax_be_lb_bf aak_be_lb_bf aax_be_if_ld_bf aak_be_if_ld_bf
    aax_be_bp_bf aak_be_bp_bf ars_jw abs_an_vf_ej_bl aan_vf_ej_bl aiy_an_vf_ej_bl aPOSTAL_bl_du
    aHANGZHOU_pf_cu ccn cay cbv cca cga cbx cbt cdo agw_LEVEL_fq_bl bot_fq_bl bDEPARTING_fq_bl
    bENTERING_fq_bl ast_cy_dc_fq_bl ban_dc_fq_bl aWAVY_jw aap_KANA_REPEAT_bl dad_tp_oz_bl dbl_dt_dj
    dad_tp_oz_bl_dt_dj dbl_cw_dj adm_POSTAL_bl agw_TELEGRAPH_ge_FEED_ee_aw aHANGZHOU_pf_kc cfn cjp
    aap_gw_lg_bl aMASU_bl aPART_ALTERNATION_bl agw_wg_nm bdj_FILL_lr =3041 aut_ac_af_A cA caf_I cI
    caf_U cU caf_E cE caf_O cO cKA cGA cKI cGI cKU cGU cKE cGE cKO cGO cSA cZA cSI cZI cSU cZU cSE
    cZE cSO cZO cTA cDA cTI cDI caf_TU cTU cDU cTE cDE cTO cDO cNA cNI cNU cNE cNO cHA cBA cPA cHI
    cBI cPI cHU cBU cPU cHE cBE cPE cHO cBO cPO cMA cMI cMU cME cMO caf_YA cYA caf_YU cYU caf_YO
    cYO cRA cRI cRU cRE cRO caf_WA cWA cWI cWE cWO cN cVU caf_KA dKE =3099 adl_ks_tp_oz_bl
    cSEMI-VOICED_oz_bl aks_tp_oz_bl bSEMI-VOICED_oz_bl aut_lg_bl btp_lg_bl bgp_YORI aks_an_qd
    alo_ac_af_A cA caf_I cI caf_U cU caf_E cE caf_O cO cKA cGA cKI cGI cKU cGU cKE cGE cKO cGO cSA
    cZA cSI cZI cSU cZU cSE cZE cSO cZO cTA cDA cTI cDI caf_TU cTU cDU cTE cDE cTO cDO cNA cNI cNU
    cNE cNO cHA cBA cPA cHI cBI cPI cHU cBU cPU cHE cBE cPE cHO cBO cPO cMA cMI cMU cME cMO caf_YA
    cYA caf_YU cYU caf_YO cYO cRA cRI cRU cRE cRO caf_WA cWA cWI cWE cWO cN cVU caf_KA dKE cVA cVI
    cVE cVO bbd_dc aks_PROLONGED_oz_bl alo_lg_bl btp_lg_bl bgp_KOTO =3105 aBOPOMOFO_ac_B cP cM cF
    cD cT cN cL cG cK cH cJ cQ cX cZH cCH cSH cR cZ cC cS cA cO cE cEH cAI cEI cAU cOU cAN cEN cANG
    cENG cER cI cU cIU cV cNG cGN cIH cO_ad_dc_al cNN =3131 ast_ac_xh cvo cKIYEOK-SIOS cNIEUN cvc
    cvd cxz cvp cRIEUL cte cvi cvj cxp cwu cwt cvh cMIEUM cPIEUP cxx cxo cSIOS cSSANGSIOS cIEUNG
    cCIEUC cxw csp csw ctl ctc cHIEUH cA cAE cYA cYAE cEO cE cYEO cYE cO cWA cWAE cOE cYO cU cWEO
    cWE cWI cYU cEU cYI cI bup bac_SSANGNIEUN czj cNIEUN-SIOS cNIEUN-PANSIOS czp czr
    cRIEUL-PIEUP-SIOS cRIEUL-PANSIOS czs cMIEUM-PIEUP cMIEUM-SIOS cMIEUM-PANSIOS cwo cPIEUP-KIYEOK
    czo czn crg cPIEUP-CIEUC cPIEUP-THIEUTH cwp cxg cSIOS-KIYEOK cSIOS-NIEUN cSIOS-TIKEUT
    cSIOS-PIEUP cSIOS-CIEUC cPANSIOS cSSANGIEUNG cYESIEUNG cYESIEUNG-SIOS cYESIEUNG-PANSIOS cts
    cSSANGHIEUH cYEORINHIEUH cYO-YA cYO-YAE cYO-I cYU-YEO cYU-YE cYU-I cARAEA cARAEAE =3190
    agw_ANNOTATION_LINKING_bl chy_bl ccu_bl ccn_bl cay_bl cbv_bl csg_bl cbd_bl chb_bl cFIRST_bl
    cSECOND_bl ctv_bl cFOURTH_bl cHEAVEN_bl crv_bl cMAN_bl aBOPOMOFO_ac_BU cZI cJI cGU cEE cENN cOO
    cONN cIR cANN cINN cUNN cIM cNGG cAINN cAUNN cAM cOM cONG cINNN bat_ac_P dT dK dH bac_GH cLH
    cZY bat_ac_G bac_GW cKW cOE cAH aCJK_av_T cWG cXG cBXG cSW cHZZ cHZG cHP cHZWG cSZWG cHZT cHZZP
    cHPWG cHZW cHZZZ cN cH cS cP cSP cD cHZ cHG cSZ cSWZ cST cSG cPD cPZ cTN cSZZ cSWG cHXWG cHZZZG
    cPG cQ =31F0 alo_ac_af_KU dSI dSU dTO dNU dHA dHI dHU dHE dHO dMU dRA dRI dRU dRE dRO arq_st_xh
    cNIEUN cxz cRIEUL cMIEUM cPIEUP cSIOS cIEUNG cCIEUC csp csw ctl ctc cHIEUH cxh_A cNIEUN_A cxz_A
    cRIEUL_A cMIEUM_A cPIEUP_A cSIOS_A cIEUNG_A cCIEUC_A csp_A csw_A ctl_A ctc_A cHIEUH_A cCIEUC_U
    bKOREAN_hv_OJEON dO_HU =3220 bIDEOGRAPH_cu ccn cay cbv cca cga cbx cbt cdo ckc cos cFIRE ctw
    cWOOD cMETAL crv cSUN cSTOCK cHAVE cSOCIETY cNAME cSPECIAL cFINANCIAL cCONGRATULATION cLABOR
    cREPRESENT cCALL cSTUDY cSUPERVISE cENTERPRISE cRESOURCE cALLIANCE cFESTIVAL cvg cSELF cREACH
    adm_IDEOGRAPH_ff cKINDERGARTEN cSCHOOL cKOTO bds_kc_ON_az_bp cfn_ON_az_bp cjp_ON_az_bp
    cog_ON_az_bp cir_ON_az_bp coy_ON_az_bp cfh_ON_az_bp cmq_ON_az_bp aPARTNERSHIP_am adm_ds_fn_cu
    dcn day dbv dca dga dbx dbt ddo cjp dcu dcn day dbv dca bst_xh cNIEUN cxz cRIEUL cMIEUM cPIEUP
    cSIOS cIEUNG cCIEUC csp csw ctl ctc cHIEUH cxh_A cNIEUN_A cxz_A cRIEUL_A cMIEUM_A cPIEUP_A
    cSIOS_A cIEUNG_A cCIEUC_A csp_A csw_A ctl_A ctc_A cHIEUH_A bKOREAN_hv_CHAMKO dJUEUI bst_IEUNG_U
    aKOREAN_STANDARD_aw adm_IDEOGRAPH_cu ccn cay cbv cca cga cbx cbt cdo ckc cos cFIRE ctw cWOOD
    cMETAL crv cSUN cSTOCK cHAVE cSOCIETY cNAME cSPECIAL cFINANCIAL cCONGRATULATION cLABOR cSECRET
    cMALE cFEMALE cSUITABLE cEXCELLENT cPRINT cATTENTION cITEM cvg cCOPY cCORRECT cfy ceb ciy cax
    cak cMEDICINE cRELIGION cSTUDY cSUPERVISE cENTERPRISE cRESOURCE cALLIANCE cNIGHT bds_jp_ga dbx
    dbt ddo cog dcu dcn day dbv dca dga dbx dbt ddo cir agw_TELEGRAPH_aw_tq_JANUARY eFEBRUARY
    eMARCH eAPRIL eMAY eJUNE eJULY eAUGUST eSEPTEMBER eOCTOBER eNOVEMBER eDECEMBER abp_HG bERG bEV
    aLIMITED_LIABILITY_am adm_lo_A cI cU cE cO cKA cKI cKU cKE cKO cSA cSI cSU cSE cSO cTA cTI cTU
    cTE cTO cNA cNI cNU cNE cNO cHA cHI cHU cHE cHO cMA cMI cMU cME cMO cYA cYU cYO cRA cRI cRU cRE
    cRO cWA cWI cWE cWO abp_ERA_NAME_REIWA bAPAATO bARUHUA bANPEA bAARU bININGU bINTI bUON
    bESUKUUDO bEEKAA bONSU bOOMU bKAIRI bKARATTO bKARORII bGARON bGANMA bGIGA bGINII bKYURII
    bGIRUDAA bKIRO bKIROGURAMU bKIROMEETORU bKIROWATTO bGURAMU bGURAMUTON bKURUZEIRO bKUROONE
    bKEESU bKORUNA bKOOPO bSAIKURU bSANTIIMU bSIRINGU bSENTI bSENTO bDAASU bDESI bDORU bTON bNANO
    bNOTTO bHAITU bPAASENTO bPAATU bBAARERU bPIASUTORU bPIKURU bPIKO bBIRU bHUARADDO bHUIITO
    bBUSSYERU bHURAN bHEKUTAARU bPESO bPENIHI bHERUTU bPENSU bPEEZI bBEETA bPOINTO bBORUTO bHON
    bPONDO bHOORU bHOON bMAIKURO bMAIRU bMAHHA bMARUKU bMANSYON bMIKURON bMIRI bMIRIBAARU bMEGA
    bMEGATON bMEETORU bYAADO bYAARU bYUAN bRITTORU bRIRA bRUPII bRUUBURU bREMU bRENTOGEN bWATTO
    agw_TELEGRAPH_aw_tq_HOUR_fb fcu fcn fay fbv fca fga fbx fbt fdo fkc fpw fns fqt fqa fny fph fno
    foe fqh ffn fTWENTY-ONE fTWENTY-TWO fTWENTY-THREE fTWENTY-FOUR abp_HPA bDA bAU bgh bOV bPC bDM
    cfe cCUBED bIU bERA_NAME_HEISEI dSYOUWA dTAISYOU dMEIZI bCORPORATION bPA_AMPS bNA bMU_A bMA bKA
    bKB bMB bGB bCAL bKCAL bPF bNF bMU_F cG bMG bKG bHZ bKHZ bMHZ bGHZ bTHZ bMU_L bML bDL bKL bFM
    bNM bMU_M bMM bCM bKM bMM_fe bCM_fe bM_fe bKM_fe bMM_CUBED bCM_CUBED bM_CUBED bKM_CUBED bM_dz_S
    efe bPA bKPA bMPA bGPA bRAD cdz_S efe bPS bNS bMU_S bMS bPV bNV bMU_V bMV bKV bMV_MEGA bPW bNW
    bMU_W bMW bKW bMW_MEGA bK_OHM bM_OHM bAM bBQ bCC bCD bC_dz_KG bCO bDB bGY bHA bHP bIN bKK
    bKM_ae bKT bLM bLN bLOG bLX bMB_af bMIL bMOL bPH bPM bPPM bPR bSR bSV bWB bV_dz_M bA_dz_M
    agw_TELEGRAPH_aw_tq_DAY_cu fcn fay fbv fca fga fbx fbt fdo fkc fpw fns fqt fqa fny fph fno foe
    fqh ffn fTWENTY-ONE fTWENTY-TWO fTWENTY-THREE fTWENTY-FOUR fvu fTWENTY-SIX fTWENTY-SEVEN
    fTWENTY-EIGHT fTWENTY-NINE fjp fTHIRTY-ONE abp_GAL =4DC0 aHEXAGRAM_tq_ua_CREATIVE_HEAVEN
    dRECEPTIVE_rv cDIFFICULTY_AT_ua_BEGINNING cYOUTHFUL_FOLLY cWAITING cCONFLICT cua_ARMY
    cyx_TOGETHER caf_TAMING cTREADING cPEACE cSTANDSTILL cFELLOWSHIP cGREAT_POSSESSION cMODESTY
    cENTHUSIASM cFOLLOWING cWORK_ON_ua_DECAYED cAPPROACH cCONTEMPLATION cBITING_li cGRACE
    cSPLITTING_APART cRETURN cINNOCENCE cGREAT_TAMING cmh_yl cGREAT_PREPONDERANCE cua_ABYSMAL_tw
    dCLINGING_FIRE cINFLUENCE cDURATION cRETREAT cGREAT_POWER cPROGRESS cDARKENING_OF_ua_co
    cua_FAMILY cOPPOSITION cOBSTRUCTION cDELIVERANCE cDECREASE cINCREASE cBREAKTHROUGH
    cCOMING_TO_MEET cGATHERING_TOGETHER cPUSHING_UPWARD cOPPRESSION cua_WELL cREVOLUTION
    cua_CAULDRON dAROUSING_THUNDER dKEEPING_STILL_qf cDEVELOPMENT cua_MARRYING_MAIDEN cABUNDANCE
    cua_WANDERER dGENTLE_WIND dJOYOUS_LAKE cDISPERSION cLIMITATION cINNER_TRUTH caf_PREPONDERANCE
    cAFTER_COMPLETION cBEFORE_COMPLETION =A000 aYI_il_IT cIX cI cIP cIET cIEX cIE cIEP cAT cAX cA
    cAP cUOX cUO cUOP cOT cOX cO cOP cEX cE cWU cBIT cBIX cBI cBIP cBIET cBIEX cBIE cBIEP cBAT cBAX
    cBA cBAP cBUOX cBUO cBUOP cBOT cBOX cBO cBOP cBEX cBE cBEP cBUT cBUX cBU cBUP cBURX cBUR cBYT
    cBYX cBY cBYP cBYRX cBYR cPIT cPIX cPI cPIP cPIEX cPIE cPIEP cPAT cPAX cPA cPAP cPUOX cPUO
    cPUOP cPOT cPOX cPO cPOP cPUT cPUX cPU cPUP cPURX cPUR cPYT cPYX cPY cPYP cPYRX cPYR cBBIT
    cBBIX cBBI cBBIP cBBIET cBBIEX cBBIE cBBIEP cBBAT cBBAX cBBA cBBAP cBBUOX cBBUO cBBUOP cBBOT
    cBBOX cBBO cBBOP cBBEX cBBE cBBEP cBBUT cBBUX cBBU cBBUP cBBURX cBBUR cBBYT cBBYX cBBY cBBYP
    cNBIT cNBIX cNBI cNBIP cNBIEX cNBIE cNBIEP cNBAT cNBAX cNBA cNBAP cNBOT cNBOX cNBO cNBOP cNBUT
    cNBUX cNBU cNBUP cNBURX cNBUR cNBYT cNBYX cNBY cNBYP cNBYRX cNBYR cHMIT cHMIX cHMI cHMIP cHMIEX
    cHMIE cHMIEP cHMAT cHMAX cHMA cHMAP cHMUOX cHMUO cHMUOP cHMOT cHMOX cHMO cHMOP cHMUT cHMUX cHMU
    cHMUP cHMURX cHMUR cHMYX cHMY cHMYP cHMYRX cHMYR cMIT cMIX cMI cMIP cMIEX cMIE cMIEP cMAT cMAX
    cMA cMAP cMUOT cMUOX cMUO cMUOP cMOT cMOX cMO cMOP cMEX cME cMUT cMUX cMU cMUP cMURX cMUR cMYT
    cMYX cMY cMYP cFIT cFIX cFI cFIP cFAT cFAX cFA cFAP cFOX cFO cFOP cFUT cFUX cFU cFUP cFURX cFUR
    cFYT cFYX cFY cFYP cVIT cVIX cVI cVIP cVIET cVIEX cVIE cVIEP cVAT cVAX cVA cVAP cVOT cVOX cVO
    cVOP cVEX cVEP cVUT cVUX cVU cVUP cVURX cVUR cVYT cVYX cVY cVYP cVYRX cVYR cDIT cDIX cDI cDIP
    cDIEX cDIE cDIEP cDAT cDAX cDA cDAP cDUOX cDUO cdc cDOX cDO cDOP cDEX cDE cDEP cDUT cDUX cDU
    cDUP cDURX cDUR cTIT cTIX cTI cTIP cTIEX cTIE cTIEP cTAT cTAX cTA cTAP cTUOT cTUOX cTUO cTUOP
    cTOT cTOX cTO csg cTEX cTE cTEP cTUT cTUX cTU cTUP cTURX cTUR cDDIT cDDIX cDDI cDDIP cDDIEX
    cDDIE cDDIEP cDDAT cDDAX cpl cDDAP cDDUOX cDDUO cDDUOP cDDOT cDDOX cDDO cDDOP cDDEX cDDE cDDEP
    cDDUT cDDUX cDDU cDDUP cDDURX cDDUR cNDIT cNDIX cNDI cNDIP cNDIEX cNDIE cNDAT cNDAX cNDA cNDAP
    cNDOT cNDOX cNDO cNDOP cNDEX cNDE cNDEP cNDUT cNDUX cNDU cNDUP cNDURX cNDUR cHNIT cHNIX cHNI
    cHNIP cHNIET cHNIEX cHNIE cHNIEP cHNAT cHNAX cHNA cHNAP cHNUOX cHNUO cHNOT cHNOX cHNOP cHNEX
    cHNE cHNEP cHNUT cNIT cNIX cNI cNIP cNIEX cNIE cNIEP cNAX cNA cNAP cNUOX cNUO cNUOP cmw cNOX
    cNO cNOP cNEX cNE cNEP cNUT cNUX cNU cNUP cNURX cNUR cHLIT cHLIX cHLI cHLIP cHLIEX cHLIE cHLIEP
    cHLAT cHLAX cHLA cHLAP cHLUOX cHLUO cHLUOP cHLOX cHLO cHLOP cHLEX cHLE cHLEP cHLUT cHLUX cHLU
    cHLUP cHLURX cHLUR cHLYT cHLYX cHLY cHLYP cHLYRX cHLYR cLIT cLIX cLI cLIP cLIET cLIEX cLIE
    cLIEP cLAT cLAX cLA cLAP cLUOT cLUOX cLUO cLUOP cLOT cLOX cLO cLOP cLEX cLE cLEP cLUT cLUX cLU
    cLUP cLURX cLUR cLYT cLYX cLY cLYP cLYRX cLYR cGIT cGIX cGI cGIP cGIET cGIEX cGIE cGIEP cGAT
    cGAX cGA cGAP cGUOT cGUOX cGUO cGUOP cGOT cGOX cGO cGOP cGET cGEX cGE cGEP cGUT cGUX cGU cGUP
    cGURX cGUR cKIT cKIX cKI cKIP cKIEX cKIE cKIEP cKAT cKAX cKA cKAP cKUOX cKUO cKUOP cKOT cKOX
    cKO cKOP cKET cKEX cKE cKEP cKUT cKUX cKU cKUP cKURX cKUR cGGIT cGGIX cGGI cGGIEX cGGIE cGGIEP
    cGGAT cGGAX cGGA cGGAP cGGUOT cGGUOX cGGUO cGGUOP cGGOT cGGOX cGGO cGGOP cGGET cGGEX cGGE cGGEP
    cGGUT cGGUX cGGU cGGUP cGGURX cGGUR cMGIEX cMGIE cMGAT cMGAX cMGA cMGAP cMGUOX cMGUO cMGUOP
    cMGOT cMGOX cMGO cMGOP cMGEX cMGE cMGEP cMGUT cMGUX cMGU cMGUP cMGURX cMGUR cHXIT cHXIX cHXI
    cHXIP cHXIET cHXIEX cHXIE cHXIEP cHXAT cHXAX cHXA cHXAP cHXUOT cHXUOX cHXUO cHXUOP cHXOT cHXOX
    cHXO cHXOP cHXEX cHXE cHXEP cNGIEX cNGIE cNGIEP cNGAT cNGAX ckt cNGAP cNGUOT cNGUOX cNGUO cNGOT
    cNGOX cNGO cNGOP cNGEX cNGE cNGEP cHIT cHIEX cHIE cHAT cHAX cHA cHAP cHUOT cHUOX cHUO cHUOP
    cHOT cHOX cHO cHOP cHEX cHE cHEP cWAT cWAX cWA cWAP cWUOX cWUO cWUOP cWOX cWO cWOP cWEX cWE
    cWEP cZIT cZIX cZI cZIP cZIEX cZIE cZIEP cZAT cZAX cZA cZAP cZUOX cZUO cZUOP cZOT cZOX cZO cZOP
    cZEX cZE cZEP cZUT cZUX cZU cZUP cZURX cZUR cZYT cZYX cZY cZYP cZYRX cZYR cCIT cCIX cCI cCIP
    cCIET cCIEX cCIE cCIEP cCAT cCAX cCA cCAP cCUOX cCUO cCUOP cCOT cCOX cCO cCOP cCEX cCE cCEP
    cCUT cCUX cCU cCUP cCURX cCUR cCYT cCYX cCY cCYP cCYRX cCYR cZZIT cZZIX cZZI cZZIP cZZIET
    cZZIEX cZZIE cZZIEP cZZAT cZZAX cZZA cZZAP cZZOX cZZO cZZOP cZZEX cZZE cZZEP cZZUX cZZU cZZUP
    cZZURX cZZUR cZZYT cZZYX cZZY cZZYP cZZYRX cZZYR cNZIT cNZIX cNZI cNZIP cNZIEX cNZIE cNZIEP
    cNZAT cNZAX cNZA cNZAP cNZUOX cNZUO cNZOX cNZOP cNZEX cNZE cNZUX cNZU cNZUP cNZURX cNZUR cNZYT
    cNZYX cNZY cNZYP cNZYRX cNZYR cSIT cga cSI cSIP cSIEX cSIE cSIEP cSAT cSAX cSA cSAP cSUOX cSUO
    cSUOP cSOT cSOX cSO cSOP cSEX cSE cSEP cSUT cSUX cSU cSUP cSURX cSUR cSYT cSYX cSY cSYP cSYRX
    cSYR cSSIT cSSIX cSSI cSSIP cSSIEX cSSIE cSSIEP cSSAT cSSAX csj cSSAP cSSOT cSSOX cSSO cSSOP
    cSSEX cSSE cSSEP cSSUT cSSUX cSSU cSSUP cSSYT cSSYX cSSY cSSYP cSSYRX cSSYR cZHAT cZHAX cZHA
    cZHAP cZHUOX cZHUO cZHUOP cZHOT cZHOX cZHO cZHOP cZHET cZHEX cZHE cZHEP cZHUT cZHUX cZHU cZHUP
    cZHURX cZHUR cZHYT cZHYX cZHY cZHYP cZHYRX cZHYR cCHAT cCHAX clm cCHAP cCHUOT cCHUOX cCHUO
    cCHUOP cCHOT cCHOX cCHO cCHOP cCHET cCHEX cCHE cCHEP cCHUX cCHU cCHUP cCHURX cCHUR cCHYT cCHYX
    cCHY cCHYP cCHYRX cCHYR cRRAX cRRA cRRUOX cRRUO cRROT cRROX cRRO cRROP cRRET cRREX cRRE cRREP
    cRRUT cRRUX cRRU cRRUP cRRURX cRRUR cRRYT cRRYX cRRY cRRYP cRRYRX cRRYR cNRAT cNRAX cNRA cNRAP
    cNROX cNRO cNROP cNRET cNREX cNRE cNREP cNRUT cNRUX cNRU cNRUP cNRURX cNRUR cNRYT cNRYX cNRY
    cNRYP cNRYRX cNRYR cSHAT cSHAX ckx cSHAP cSHUOX cSHUO cSHUOP cSHOT cSHOX cSHO cSHOP cSHET cSHEX
    cwk cSHEP cSHUT cSHUX cSHU cSHUP cSHURX cSHUR cSHYT cSHYX cSHY cSHYP cSHYRX cSHYR cRAT cRAX cRA
    cRAP cRUOX cRUO cRUOP cROT cROX cRO cROP cREX cRE cREP cRUT cRUX cRU cRUP cRURX cRUR cRYT cRYX
    cRY cRYP cRYRX cRYR cJIT cJIX cJI cJIP cJIET cJIEX cJIE cJIEP cJUOT cJUOX cJUO cJUOP cJOT cJOX
    cJO cJOP cJUT cJUX cJU cJUP cJURX cJUR cJYT cJYX cJY cJYP cJYRX cJYR cQIT cQIX cQI cQIP cQIET
    cQIEX cQIE cQIEP cQUOT cQUOX cQUO cQUOP cQOT cQOX cQO cQOP cQUT cQUX cQU cQUP cQURX cQUR cQYT
    cQYX cQY cQYP cQYRX cQYR cJJIT cJJIX cJJI cJJIP cJJIET cJJIEX cJJIE cJJIEP cJJUOX cJJUO cJJUOP
    cJJOT cJJOX cJJO cJJOP cJJUT cJJUX cJJU cJJUP cJJURX cJJUR cJJYT cJJYX cJJY cJJYP cNJIT cNJIX
    cNJI cNJIP cNJIET cNJIEX cNJIE cNJIEP cNJUOX cNJUO cNJOT cNJOX cNJO cNJOP cNJUX cNJU cNJUP
    cNJURX cNJUR cNJYT cNJYX cNJY cNJYP cNJYRX cNJYR cNYIT cNYIX cNYI cNYIP cNYIET cNYIEX cNYIE
    cNYIEP cNYUOX cNYUO cNYUOP cNYOT cNYOX cNYO cNYOP cNYUT cNYUX cNYU cNYUP cXIT cXIX cXI cXIP
    cXIET cXIEX cXIE cXIEP cXUOX cXUO cXOT cXOX cXO cXOP cXYT cXYX cXY cXYP cXYRX cXYR cYIT cYIX
    cYI cYIP cYIET cYIEX cYIE cYIEP cYUOT cYUOX cYUO cYUOP cYOT cYOX cYO cYOP cYUT cYUX cYU cYUP
    cYURX cYUR cYYT cYYX cYY cYYP cYYRX cYYR =A490 bRADICAL_QOT cLI cKIT cNYIP cCYP cSSI cGGOP cGEP
    cMI cHXIT cLYR cBBUT cMOP cYO cPUT cHXUO cTAT cGA cZUP cCYT cDDUR cBUR cGGUO cNYOP cTU cOP
    cJJUT cZOT cPYT cHMO cYIT cVUR cSHY cVEP cZA cJO cNZUP cJJY cGOT cJJIE cWO cDU cSHUR cLIE cCY
    cCUOP cCIP cHXOP cSHAT cZUR cSHOP cCHE cZZIET cNBIE cKE =A4D0 aLISU_ac_BA cPA coa cDA cTA cml
    cGA cKA clu cJA cCA clm cDZA czy czz cMA cNA cLA cSA cZHA cZA ckt cHA cXA cHHA cFA cWA ckx cYA
    cpm cA cAE cE cEU cI cO cU cUE cUH cOE cfq_MYA_TI dNA_PO dMYA_CYA eBO eNA eJEU bce_ew cii_gg
    aVAI_il_EE cEEN cHEE cWEE cWEEN cPEE cBHEE cBEE cMBEE cKPEE cMGBEE cGBEE cFEE cVEE cTEE cTHEE
    cDHEE cDHHEE cLEE cREE cDEE cNDEE cSEE cSHEE cZEE cZHEE cCEE cJEE cNJEE cYEE cKEE cNGGEE cGEE
    cMEE cNEE cNYEE cI cIN cHI cHIN cWI cWIN cPI cBHI cBI cMBI cKPI cMGBI cGBI cFI cVI cTI cTHI
    cDHI cDHHI cLI cRI cDI cNDI cSI cSHI cZI cZHI cCI cJI cNJI cYI cKI cNGGI cGI cMI cNI cNYI cA
    cAN cNGAN cHA cHAN cWA cWAN cPA crj cBA cMBA cKPA cKPAN cMGBA cGBA cFA cVA cTA cml cpt cDHHA
    cLA cRA cDA cNDA cSA ckx cZA cZHA cCA cJA cNJA cYA cKA cKAN cNGGA cGA cMA cNA clp cOO cOON cHOO
    cWOO cWOON cPOO cBHOO cBOO cMBOO cKPOO cMGBOO cGBOO cFOO cVOO cTOO cTHOO cDHOO cDHHOO cLOO cROO
    cDOO cNDOO cSOO cSHOO cZOO cZHOO cCOO cJOO cNJOO cYOO cKOO cNGGOO cGOO cMOO cNOO cNYOO cU cUN
    cHU cHUN cWU cWUN cPU cBHU cBU cMBU cKPU cMGBU cGBU cFU cVU cTU cTHU cDHU cDHHU cLU cRU cDU
    cNDU cSU cSHU cZU cZHU cCU cJU cNJU cYU cKU cNGGU cGU cMU cNU cNYU cO cON cNGON cHO cHON cWO
    cWON cPO cBHO cBO cMBO cKPO cMGBO cGBO cGBON cFO cVO cTO cTHO cDHO cDHHO cLO cRO cDO cNDO cSO
    cSHO cZO cZHO cCO cJO cNJO cYO cKO cNGGO cGO cMO cNO cNYO cE cEN cNGEN cHE cHEN cWE cWEN cPE
    cBHE cBE cMBE cKPE cKPEN cMGBE cGBE cGBEN cFE cVE cTE cua cDHE cDHHE cLE cRE cDE cNDE cSE cwk
    cZE cZHE cCE cJE cNJE cYE cKE cNGGE cNGGEN cGE cGEN cME cNE cNYE cNG cxj bew bii_gg bff_bl
    bil_NDOLE_FA dKA dSOO baw_FEENG cKEENG cTING cNII cBANG cFAA cTAA cDANG cDOONG cKUNG cTONG
    cDO-O cJONG bct_fb ccu ccn cay cbv cca cga cbx cbt cdo bil_NDOLE_MA dDO =A640 ajv_ae_ac_ZEMLYA
    baf_ac_ZEMLYA bae_ac_DZELO baf_ac_DZELO bae_ac_bs_DZE baf_ac_bs_DZE bae_ac_mk baf_ac_mk
    bae_ac_DJERV baf_ac_DJERV bae_ac_MONOGRAPH_UK baf_ac_MONOGRAPH_UK bae_ac_BROAD_hu
    baf_ac_BROAD_hu bae_ac_hx_YER baf_ac_hx_YER bae_ac_YERU_ad_BACK_YER baf_ac_YERU_ad_BACK_YER
    bae_ac_ix_YAT baf_ac_ix_YAT bae_ac_bs_YU baf_ac_bs_YU bae_ac_ix_A baf_ac_ix_A bae_ac_go_ed_YUS
    baf_ac_go_ed_YUS bae_ac_BLENDED_YUS baf_ac_BLENDED_YUS bae_ac_ix_go_ed_YUS baf_ac_ix_go_ed_YUS
    bae_ac_YN baf_ac_YN bae_ac_bs_TSE baf_ac_bs_TSE bae_ac_SOFT_DE baf_ac_SOFT_DE bae_ac_SOFT_EL
    baf_ac_SOFT_EL bae_ac_SOFT_EM baf_ac_SOFT_EM bae_ac_MONOCULAR_O baf_ac_MONOCULAR_O
    bae_ac_BINOCULAR_O baf_ac_BINOCULAR_O bae_ac_an_MONOCULAR_O baf_ac_an_MONOCULAR_O
    bac_MULTIOCULAR_O adl_jv_VZMET ckc_sb_am cbb_sb_am cbc_sb_am aSLAVONIC_dk
    adl_jv_ac_UKRAINIAN_IE dI dYI dU dHARD_am dYERU dSOFT_am dhu cKAVYKA cPAYEROK ajv_KAVYKA
    bPAYEROK bae_ac_DWE baf_ac_DWE bae_ac_DZWE baf_ac_DZWE bae_ac_ZHWE baf_ac_ZHWE bae_ac_CCHE
    baf_ac_CCHE bae_ac_DZZE baf_ac_DZZE bae_ac_TE_ad_bd_by baf_ac_TE_ad_bd_by bae_ac_TWE baf_ac_TWE
    bae_ac_TSWE baf_ac_TSWE bae_ac_TSSE baf_ac_TSSE bae_ac_TCHE baf_ac_TCHE bae_ac_HWE baf_ac_HWE
    bae_ac_SHWE baf_ac_SHWE bae_ac_an_O baf_ac_an_O bae_ac_lt_O baf_ac_lt_O aez_ac_jv_HARD_am
    dSOFT_am adl_jv_ac_EF dix_E aBAMUM_ac_A cKA cU cKU cEE cREE cTAE cO cNYI cI cLA cPA cRII cRIEE
    cLEEEE cMEEEE cTAA cNDAA cNJAEM cM cSUU cMU cSHII cSI cSHEUX cSEUX cKYEE cKET cNUAE cNU cNJUAE
    cYOQ cSHU cYUQ cYA cNSHA cKEUX cPEUX cNJEE cNTEE cPUE cWUE cPEE cFEE cRU cLU cMI cNI cREUX cRAE
    cKEN cNGKWAEN cNGGA ckt cSHO cPUAE cFU cFOM cWA cNA cLI cPI cLOQ cKO cMBEN cREN cMEN cMA cTI
    cKI cMO cMBAA cTET cKPA ckc cNTUU cSAMBA cFAAMAE cKOVUU cKOGHOM bdl_bl_KOQNDON dTUKWENTIS
    bNJAEMLI bii_gg biv bew bjy bff_bl =A700 aez_ac_CHINESE_fq_YIN_PING eYANG_PING eYIN_SHANG
    eYANG_SHANG eYIN_QU eYANG_QU eYIN_RU eYANG_RU cxb_gb_fq_gh cfy_gb_fq_gh cMID_gb_fq_gh
    ciy_gb_fq_gh cEXTRA-LOW_gb_fq_gh cxb_gb_lh_fq_gh cfy_gb_lh_fq_gh cMID_gb_lh_fq_gh
    ciy_gb_lh_fq_gh cEXTRA-LOW_gb_lh_fq_gh cxb_lh_fq_gh cfy_lh_fq_gh cMID_lh_fq_gh ciy_lh_fq_gh
    cEXTRA-LOW_lh_fq_gh cdc_ap_gh dqp dau_gh ccw_ak_hc_ft cij_UP_ag ddi_ag ddy_bl dcc_dy_bl
    ciy_cc_dy_bl cSTRESS_bk_fy_fq eiy_fq afu_ae_ac_rm_ef baf_ac_rm_ef bae_ac_rm_wl baf_ac_rm_wl
    bae_ac_HENG baf_ac_HENG bae_ac_TZ baf_ac_TZ bae_ac_TRESILLO baf_ac_TRESILLO bae_ac_CUATRILLO
    baf_ac_CUATRILLO bae_ac_CUATRILLO_ad_ew baf_ac_CUATRILLO_ad_ew bac_af_ae_F eS bae_ac_AA
    baf_ac_AA bae_ac_AO baf_ac_AO bae_ac_AU baf_ac_AU bae_ac_AV baf_ac_AV bae_ac_AV_ad_au_gh
    baf_ac_AV_ad_au_gh bae_ac_AY baf_ac_AY bae_ac_bs_C_ad_dc baf_ac_bs_C_ad_dc bae_ac_K_ad_av
    baf_ac_K_ad_av bae_ac_K_ad_dn_av baf_ac_K_ad_dn_av bae_ac_K_ad_av_bk_dn_av
    baf_ac_K_ad_av_bk_dn_av bae_ac_BROKEN_L baf_ac_BROKEN_L bae_ac_L_ad_fy_av baf_ac_L_ad_fy_av
    bae_ac_O_ad_fm_av_hq baf_ac_O_ad_fm_av_hq bae_ac_O_ad_va baf_ac_O_ad_va bae_ac_OO baf_ac_OO
    bae_ac_P_ad_av_li_df baf_ac_P_ad_av_li_df bae_ac_P_ad_yt baf_ac_P_ad_yt bae_ac_P_ad_SQUIRREL_ia
    baf_ac_P_ad_SQUIRREL_ia bae_ac_Q_ad_av_li_df baf_ac_Q_ad_av_li_df bae_ac_Q_ad_dn_av
    baf_ac_Q_ad_dn_av bae_ac_R_ROTUNDA baf_ac_R_ROTUNDA bae_ac_RUM_ROTUNDA baf_ac_RUM_ROTUNDA
    bae_ac_V_ad_dn_av baf_ac_V_ad_dn_av bae_ac_VY baf_ac_VY bae_ac_VISIGOTHIC_Z baf_ac_VISIGOTHIC_Z
    bae_ac_THORN_ad_av baf_ac_THORN_ad_av bae_ac_THORN_ad_av_li_df baf_ac_THORN_ad_av_li_df
    bae_ac_VEND baf_ac_VEND bae_ac_ET baf_ac_ET bae_ac_IS baf_ac_IS bae_ac_CON baf_ac_CON aez_ac_US
    afu_af_ac_DUM dLUM dMUM dNUM dRUM bac_af_ae_RUM baf_ac_TUM dUM bae_ac_jj_D baf_ac_jj_D
    bae_ac_jj_F baf_ac_jj_F bae_ac_jj_G dcj_jj_G baf_ac_cj_jj_G bae_ac_cj_L baf_ac_cj_L bae_ac_jj_R
    baf_ac_jj_R bae_ac_jj_S baf_ac_jj_S bae_ac_jj_T baf_ac_jj_T aez_ac_iy_bg_fv civ cfw_gq_am
    afu_ae_ac_SALTILLO baf_ac_SALTILLO bae_ac_cj_H baf_ac_L_ad_da_by_bk_BELT bac_SINOLOGICAL_dc
    bae_ac_N_ad_df baf_ac_N_ad_df bae_ac_C_ad_gh baf_ac_C_ad_gh fgj_by dH_ad_gj_by bae_ac_B_ad_yt
    baf_ac_B_ad_yt bae_ac_F_ad_av baf_ac_F_ad_av bae_ac_VOLAPUK_AE baf_ac_VOLAPUK_AE
    bae_ac_VOLAPUK_OE baf_ac_VOLAPUK_OE bae_ac_VOLAPUK_UE baf_ac_VOLAPUK_UE bae_ac_G_ad_kv_av
    baf_ac_G_ad_kv_av bae_ac_K_ad_kv_av baf_ac_K_ad_kv_av bae_ac_N_ad_kv_av baf_ac_N_ad_kv_av
    bae_ac_R_ad_kv_av baf_ac_R_ad_kv_av bae_ac_S_ad_kv_av baf_ac_S_ad_kv_av bae_ac_H_ad_by dbs_fj_E
    dio_G dL_ad_BELT daf_ae_I bac_af_ae_Q bae_ac_cj_K eT dJ_ad_jg dCHI dtx baf_ac_tx bae_ac_hu
    baf_ac_hu bae_ac_U_ad_av baf_ac_U_ad_av bae_ac_gr_A baf_ac_gr_A bae_ac_gr_I baf_ac_gr_I
    bae_ac_gr_U baf_ac_gr_U bae_ac_ol_POLISH_O baf_ac_ol_POLISH_O bae_ac_ANGLICANA_W
    baf_ac_ANGLICANA_W bae_ac_C_ad_gj_by dS_ad_by dZ_ad_gj_by dD_ad_fw_av_hq baf_ac_D_ad_fw_av_hq
    bae_ac_S_ad_fw_av_hq baf_ac_S_ad_fw_av_hq =A7D0 bae_ac_go_jj_G baf_ac_go_jj_G =A7D3 dan_THORN
    =A7D5 eWYNN bae_ac_bd_SCOTS_S baf_ac_bd_SCOTS_S bae_ac_SIGMOID_S baf_ac_SIGMOID_S =A7F2
    aez_ac_ae_C dF dQ afu_ae_ac_bs_dj_H baf_ac_bs_dj_H bEPIGRAPHIC_ac_oo_I aez_ac_ae_H_ad_av
    caf_eo_OE afu_ac_af_ae_cj_M bEPIGRAPHIC_ac_bs_F eP dcc_M dI_LONGA djb_M aSYLOTI_NAGRI_ac_A dI
    cam_DVISVARA cac_U dE dO cam_HASANTA cac_KO dKHO dGO dGHO cam_cv cac_CO dCHO dJO dJHO dTTO
    dTTHO dDDO dDDHO dTO dTHO dDO dDHO dNO dPO dPHO dBO dBHO dMO dRO dLO dRRO dSO dHO ccp_am_A eI
    eU eE eOO cPOETRY_MARK-1 dMARK-2 dMARK-3 dMARK-4 cam_fr_HASANTA =A830 agl_INDIC_hs_cu_fl edj
    day_jn dcu_se eic day_xv cfl_bl cPLACEHOLDER_bl cRUPEE_bl cQUANTITY_bl =A840 aPHAGS-PA_ac_KA
    clu cGA ckt cCA clm cJA clp cTA cml cDA cNA cPA coa cBA cMA czy czz cDZA cWA cZHA cZA caf_A cYA
    cRA cLA ckx cSA cHA cA cI cU cE cO cQA cXA cFA cGGA cEE bsf_ac_WA dYA bac_pj ckb cpl cre cfr_YA
    cVOICELESS_kx ctp_HA cASPIRATED_FA bsf_ac_RA bSUPERFIXED_ac_RA bac_dh bcy_ty_bl ban_ty_bl
    bbl_xs can_xs =A880 aSAURASHTRA_am_cv cfa bac_A cAA cI cII cU cUU ccz_R dRR dL dLL cE cEE cAI
    cO cOO cAU cKA clu cGA cpm ckt cCA clm cJA cuv clp cpj ckb cpl cke cre cTA cml cDA cpt cNA cPA
    coa cBA crj cMA cYA cRA cLA cVA ckx csj cSA cHA cLLA bfs_am_HAARU bcp_am_AA dI dII dU dUU dcz_R
    eRR eL eLL dE dEE dAI dO dOO dAU bam_fo cdh =A8CE bjh ban_jh bct_fb ccu ccn cay cbv cca cga cbx
    cbt cdo =A8E0 adl_DEVANAGARI_ct_fb dcu dcn day dbv dca dga dbx dbt ddo cac_A dU dKA dNA dPA dRA
    dVI cam_it aDEVANAGARI_am_SPACING_dh cdh_fo can_dh_fo cdh_cn day dit cPUSHPIKA bGAP_up byh
    bHEADSTROKE bam_wc bJAIN_OM bac_AY bcp_am_AY aKAYAH_LI_ct_fb dcu dcn day dbv dca dga dbx dbt
    ddo cac_KA dlu dGA dkt dSA dkx dZA dlp dTA dHTA dNA dPA doa dMA dDA dBA dRA dYA dLA dWA dml dHA
    dVA dCA dA dOE dI dOO ccp_UE dE dU dEE dO cfq_PLOPHU dCALYA ePLOPHU cam_CWI dSHYA aREJANG_ac_KA
    cGA ckt cTA cDA cNA cPA cBA cMA cCA cJA clp cSA cRA cLA cYA cWA cHA cMBA cNGGA cNDA cNYJA cA
    bcp_am_I dU dE dAI dO dAU dEU dEA bfs_am_NG dN dR dH bfo =A95F bhk_bl ast_CHOSEONG_TIKEUT-MIEUM
    cTIKEUT-PIEUP cTIKEUT-SIOS cTIKEUT-CIEUC cte czq czr cRIEUL-SSANGTIKEUT cvi cvj
    cRIEUL-SSANGPIEUP cwj cxp cRIEUL-CIEUC cRIEUL-KHIEUKH cMIEUM-KIYEOK cMIEUM-TIKEUT cMIEUM-SIOS
    cPIEUP-SIOS-THIEUTH cPIEUP-KHIEUKH cPIEUP-HIEUH cSSANGSIOS-PIEUP cIEUNG-RIEUL cIEUNG-HIEUH
    cSSANGCIEUC-HIEUH cSSANGTHIEUTH cPHIEUPH-HIEUH cHIEUH-SIOS cSSANGYEORINHIEUH =A980
    aJAVANESE_am_PANYANGGA cCECAK cLAYAR cWIGNYAN bac_A cI_KAWI d cII cU cPA_CEREK ckt_LELET
    eRASWADI cE cAI cO cKA dSASAK dwq cGA dwq ckt cCA dwq cJA clp_wq cJA_nn clp cpj dnn cpl dnn
    cNA_wq cTA dwq cDA dnn cNA cPA dwq cBA dwq cMA cYA cRA dAGUNG cLA cWA cSA_wq dnn d cHA
    bam_CECAK_TELU bcp_am_TARUNG dTOLONG dWULU eMELIK dSUKU eMENDUT dTALING dDIRGA_MURE dPEPET
    bfs_am_KERET dPENGKAL dCAKRA bPANGKON bax_RERENGGAN bak_RERENGGAN bPADA_ANDAP cMADYA cLUHUR
    cWINDU cPANGKAT cLINGSA cLUNGSI cADEG dADEG cPISELEH bcj_PADA_PISELEH =A9CF bPANGRANGKEP bct_fb
    ccu ccn cay cbv cca cga cbx cbt cdo =A9DE bPADA_TIRTA_TUMETES cISEN-ISEN aMYANMAR_ac_SHAN_pm
    dlm duv dre drj bam_SHAN_SAW bez_ac_SHAN_REDUPLICATION bac_TAI_LAING_lp eFA eGA epm eJA euv epl
    eke ere bTAI_LAING_ct_fb ecu ecn eay ebv eca ega ebx ebt edo bac_TAI_LAING_LLA eDA ept eBA erj
    =AA00 aCHAM_ac_A cI cU cE cAI cO cKA clu cGA cpm cNGUE ckt clm cCHHA cJA cuv cNHUE cNHA cNHJA
    cTA cml cDA cpt cNUE cNA cpl cPA cPPA coa cBA crj cMUE cMA cBBA cYA cRA cLA cVA csj cSA cHA
    bcp_am_AA dI dII dEI dU dOE dO dAI dAU dUE bfs_am_YA dRA dLA dWA =AA40 bac_at_K dG dNG
    bfs_am_at_NG bac_at_CH dT dN dP dY dR dL dSS bfs_am_at_M eH =AA50 bct_fb ccu ccn cay cbv cca
    cga cbx cbt cdo =AA5C bce_SPIRAL cjh can_jh cev_jh aMYANMAR_ac_KHAMTI_GA dCA dlm dJA duv dlp
    dpj dkb dpl dke dpt dNA dSA dHA dHHA dFA bez_ac_KHAMTI_REDUPLICATION bac_KHAMTI_XA dZA dRA
    bzf_KHAMTI_OAY dQN dHM baw_AITON_dy dcu dcn bac_AITON_RA bam_PAO_KAREN_fq cTAI_LAING_tm etn
    bac_SHWE_PALAUNG_lm ekx aTAI_VIET_ac_iy_KO dfy_KO diy_KHO dfy_KHO diy_KHHO dfy_KHHO diy_GO
    dfy_GO diy_NGO dfy_NGO diy_CO dfy_CO diy_CHO dfy_CHO diy_SO dfy_SO diy_NYO dfy_NYO diy_DO
    dfy_DO diy_TO dfy_TO diy_THO dfy_THO diy_NO dfy_NO diy_BO dfy_BO diy_PO dfy_PO diy_PHO dfy_PHO
    diy_FO dfy_FO diy_MO dfy_MO diy_YO dfy_YO diy_RO dfy_RO diy_LO dfy_LO diy_VO dfy_VO diy_HO
    dfy_HO diy_O dfy_O cMAI_KANG ccp_AA dI dUE dU dE dO cMAI_KHIT ccp_IA dUEA dUA dAUE dAY dAN dAM
    cfq_MAI_EK eNUENG eTHO eSONG =AADB caw_KON dNUENG dSAM dHO_HOI dKOI_KOI aMEETEI_MAYEK_ac_E dO
    dlm dlp dpj dkb dpl dke dre dkx dsj ccp_am_II eUU eAAI eAU eAAU cCHEIKHAN cAHANG_KHUDAM cANJI
    cil_REPETITION_bl cWORD_REPETITION_bl ccp_am_fa cfo =AB01 aETHIOPIC_il_TTHU cTTHI cTTHAA cTTHEE
    cTTHE cTTHO =AB09 cDDHU cDDHI cDDHAA cDDHEE cDDHE cDDHO =AB11 cDZU cDZI cDZAA cDZEE cDZE cDZO
    =AB20 cCCHHA cCCHHU cCCHHI cCCHHAA cCCHHEE cCCHHE cCCHHO =AB28 cBBA cBBU cBBI cBBAA cBBEE cBBE
    cBBO =AB30 afu_af_ac_sk_ip dA_REVERSED-SCHWA dBLACKLETTER_E dsk_E dE_ad_yt dLENIS_F dio_G_ad_jg
    dL_ad_cc_LAZY_S fan_bd_cs fbd_el dM_ad_jg dN_ad_jg dENG_ad_jg dBLACKLETTER_O fad_av dfj_O_ad_av
    dcc_OE dcj_OE_ad_av gau_av eO_OPEN-O gad_av dSTIRRUP_R bac_af_ae_R_ad_ak_LEG
    baf_ac_R_WITHOUT_HANDLE dan_R dR_ad_jg dan_R_ad_jg dio_R fad_el dBASELINE_ESH dU_ad_fw_ak_LEG
    egh_ad_fw_ak_LEG dUI dcj_UI dU_ad_ax_by dCHI ead_iy_ak_el gax_SERIF dX_ad_iy_ak_el ffm_ax_LEG
    ibk_iy_ak_el iad_SERIF dY_ad_fw_ak_LEG aez_fi_ad_cc_fi bac_af_HENG dL_ad_cc_LAZY_S fbd_cs
    dU_ad_ax_by afu_af_ac_SAKHA_YAT dix_E dfj_OE dUO dcc_ip akr_ac_af_ae_hu
    afu_af_ac_DZ_gp_ad_da_by dTS_gp_ad_da_by dcj_R_ad_bd_cs aez_ac_af_cj_W cax_ll cak_ll =AB70
    aCHEROKEE_af_ac_A dE dI dO dU dV dGA dKA dGE dGI dGO dGU dGV dHA dHE dHI dHO dHU dHV dLA dLE
    dLI dLO dLU dLV dMA dME dMI dMO dMU dNA dHNA dNAH dNE dNI dNO dNU dNV dQUA dQUE dQUI dQUO dQUU
    dQUV dSA dS dSE dSI dSO dSU dSV dDA dTA dDE dTE dDI dTI dDO dDU dDV dDLA dTLA dTLE dTLI dTLO
    dTLU dTLV dzy dTSE dTSI dTSO dTSU dTSV dWA dWE dWI dWO dWU dWV dYA aMEETEI_MAYEK_ac_KOK dSAM
    dLAI dMIT dPA dNA dCHIL dTIL dKHOU dNGOU dTHOU dWAI dYANG dHUK dUN dI dPHAM dATIYA dGOK dJHAM
    dRAI dBA dJIL dDIL dGHOU dDHOU dBHAM dKOK_xk dLAI_xk dMIT_xk dPA_xk dNA_xk dTIL_xk dNGOU_xk
    dI_xk ccp_am_ONAP eINAP eANAP eYENAP eSOUNAP eUNAP eCHEINAP eNUNG cCHEIKHEI cLUM_IYEK
    cAPUN_IYEK =ABF0 cct_fb dcu dcn day dbv dca dga dbx dbt ddo =D7B0 ast_JUNGSEONG_O-YEO cO-O-I
    cYO-A cYO-AE cYO-EO cU-YEO cU-I-I cYU-AE cYU-O cEU-A cEU-EO cEU-E cEU-O cI-YA-O cI-YAE cI-YEO
    cI-YE cI-O-I cI-YO cI-YU cI-I cARAEA-A cARAEA-E =D7CB bJONGSEONG_NIEUN-RIEUL cNIEUN-CHIEUCH cvp
    cSSANGTIKEUT-PIEUP cTIKEUT-PIEUP cTIKEUT-SIOS cTIKEUT-SIOS-KIYEOK cTIKEUT-CIEUC cTIKEUT-CHIEUCH
    cTIKEUT-THIEUTH czq cRIEUL-KIYEOK-HIEUH cSSANGRIEUL-KHIEUKH cRIEUL-MIEUM-HIEUH
    cRIEUL-PIEUP-TIKEUT cRIEUL-PIEUP-PHIEUPH cRIEUL-YESIEUNG cRIEUL-YEORINHIEUH-HIEUH
    cKAPYEOUNRIEUL cMIEUM-NIEUN cMIEUM-SSANGNIEUN cSSANGMIEUM cMIEUM-PIEUP-SIOS cMIEUM-CIEUC czo
    cPIEUP-RIEUL-PHIEUPH cPIEUP-MIEUM cxx crg cPIEUP-CIEUC cPIEUP-CHIEUCH cSIOS-MIEUM
    cSIOS-KAPYEOUNPIEUP cSSANGSIOS-KIYEOK cSSANGSIOS-TIKEUT cSIOS-PANSIOS cSIOS-CIEUC cSIOS-CHIEUCH
    cSIOS-THIEUTH cSIOS-HIEUH cPANSIOS-PIEUP cPANSIOS-KAPYEOUNPIEUP cYESIEUNG-MIEUM cYESIEUNG-HIEUH
    cCIEUC-PIEUP cCIEUC-SSANGPIEUP cxw cPHIEUPH-SIOS cPHIEUPH-THIEUTH =F900 aCJK_COMPATIBILITY_aa
    caa caa caa caa caa caa caa caa caa caa caa caa caa caa caa caa caa caa caa caa caa caa caa caa
    caa caa caa caa caa caa caa caa caa caa caa caa caa caa caa caa caa caa caa caa caa caa caa caa
    caa caa caa caa caa caa caa caa caa caa caa caa caa caa caa caa caa caa caa caa caa caa caa caa
    caa caa caa caa caa caa caa caa caa caa caa caa caa caa caa caa caa caa caa caa caa caa caa caa
    caa caa caa caa caa caa caa caa caa caa caa caa caa caa caa caa caa caa caa caa caa caa caa caa
    caa caa caa caa caa caa caa caa caa caa caa caa caa caa caa caa caa caa caa caa caa caa caa caa
    caa caa caa caa caa caa caa caa caa caa caa caa caa caa caa caa caa caa caa caa caa caa caa caa
    caa caa caa caa caa caa caa caa caa caa caa caa caa caa caa caa caa caa caa caa caa caa caa caa
    caa caa caa caa caa caa caa caa caa caa caa caa caa caa caa caa caa caa caa caa caa caa caa caa
    caa caa caa caa caa caa caa caa caa caa caa caa caa caa caa caa caa caa caa caa caa caa caa caa
    caa caa caa caa caa caa caa caa caa caa caa caa caa caa caa caa caa caa caa caa caa caa caa caa
    caa caa caa caa caa caa caa caa caa caa caa caa caa caa caa caa caa caa caa caa caa caa caa caa
    caa caa caa caa caa caa caa caa caa caa caa caa caa caa caa caa caa caa caa caa caa caa caa caa
    caa caa caa caa caa caa caa caa caa caa caa caa caa caa caa caa caa caa caa caa caa caa caa caa
    caa caa caa caa caa caa caa caa caa caa caa caa caa caa caa caa caa caa caa caa caa caa caa caa
    caa caa caa caa caa =FA70 caa caa caa caa caa caa caa caa caa caa caa caa caa caa caa caa caa
    caa caa caa caa caa caa caa caa caa caa caa caa caa caa caa caa caa caa caa caa caa caa caa caa
    caa caa caa caa caa caa caa caa caa caa caa caa caa caa caa caa caa caa caa caa caa caa caa caa
    caa caa caa caa caa caa caa caa caa caa caa caa caa caa caa caa caa caa caa caa caa caa caa caa
    caa caa caa caa caa caa caa caa caa caa caa caa caa caa caa caa caa =FB00 afu_af_eo_FF dFI dFL
    dFFI dFFL dfm_S_T dST =FB13 ayd_af_eo_MEN_NOW eECH eINI dVEW_NOW dMEN_XEH =FB1D
    aHEBREW_ac_YOD_ad_HIRIQ btu_JUDEO-SPANISH_VARIKA beo_YIDDISH_YOD_YOD_PATAH bac_ALTERNATIVE_AYIN
    cWIDE_ef dDALET dHE dzb dLAMED dat_MEM dRESH dTAV cALTERNATIVE_db_am cmz_ad_mz_dc eSIN_dc
    ejc_bk_mz_dc gSIN_dc cef_ad_PATAH eQAMATS eMAPIQ cBET_ad_jc cqb_ad_jc cDALET_ad_jc cHE_ad_MAPIQ
    cVAV_ad_jc csi_ad_jc =FB38 cTET_ad_jc cYOD_ad_jc cat_zb_ad_jc czb_ad_jc cLAMED_ad_jc =FB3E
    cMEM_ad_jc =FB40 cqv_ad_jc cmf_ad_jc =FB43 cat_PE_ad_jc cPE_ad_jc =FB46 cTSADI_ad_jc cQOF_ad_jc
    cRESH_ad_jc cmz_ad_jc cTAV_ad_jc cVAV_ad_HOLAM cBET_ad_RAFE czb_ad_RAFE cPE_ad_RAFE
    beo_ef_LAMED ako_ac_ef_WASLA_ai_ah eat_ah cBEEH_ai_ah dat_ah dar_ah dch_ah cPEH_ai_ah dat_ah
    dar_ah dch_ah cBEHEH_ai_ah dat_ah dar_ah dch_ah cTTEHEH_ai_ah dat_ah dar_ah dch_ah cTEHEH_ai_ah
    dat_ah dar_ah dch_ah cTTEH_ai_ah dat_ah dar_ah dch_ah cVEH_ai_ah dat_ah dar_ah dch_ah
    cPEHEH_ai_ah dat_ah dar_ah dch_ah cDYEH_ai_ah dat_ah dar_ah dch_ah cNYEH_ai_ah dat_ah dar_ah
    dch_ah cTCHEH_ai_ah dat_ah dar_ah dch_ah cTCHEHEH_ai_ah dat_ah dar_ah dch_ah cDDAHAL_ai_ah
    dat_ah cDAHAL_ai_ah dat_ah cDUL_ai_ah dat_ah cDDAL_ai_ah dat_ah cJEH_ai_ah dat_ah cRREH_ai_ah
    dat_ah cKEHEH_ai_ah dat_ah dar_ah dch_ah cGAF_ai_ah dat_ah dar_ah dch_ah cGUEH_ai_ah dat_ah
    dar_ah dch_ah cNGOEH_ai_ah dat_ah dar_ah dch_ah cki_GHUNNA_ai_ah eat_ah cRNOON_ai_ah dat_ah
    dar_ah dch_ah cHEH_ad_hn_al_ai_ah gat_ah dGOAL_ai_ah eat_ah ear_ah ech_ah dDOACHASHMEE_ai_ah
    eat_ah ear_ah ech_ah chn_BARREE_ai_ah eat_ah ead_id_al_ai_ah hat_ah baw_dc_al das ccn_dw_al eas
    cay_dw_al eas ecd_ba_al gas cbv_dw_al eas can_ap_gh_as ccn_dw_nt_al fas cel caf_TAH_al eas
    cWASLA_al =FBD3 bac_NG_ai_ah dat_ah dar_ah dch_ah cU_ai_ah dat_ah cOE_ai_ah dat_ah cYU_ai_ah
    dat_ah cU_ad_id_al_ai_ah cVE_ai_ah dat_ah cKIRGHIZ_OE_ai_ah eat_ah dYU_ai_ah eat_ah cE_ai_ah
    dat_ah dar_ah dch_ah cUIGHUR_KAZAKH_KIRGHIZ_ef_cl_ar_ah hch_ah beo_hn_ad_id_al_ad_ef_ai_ah
    iat_ah hAE_ai_ah iat_ah hub_ai_ah iat_ah hU_ai_ah iat_ah hOE_ai_ah iat_ah hYU_ai_ah iat_ah
    hE_ai_ah iat_ah iar_ah cUIGHUR_KIRGHIZ_hn_ad_id_al_ad_ef_cl_ai_ah lat_ah lar_ah
    bac_FARSI_hn_ai_ah eat_ah ear_ah ech_ah beo_hn_ad_id_al_ad_fk_ai_ah hje_ai_ah hcx_ai_ah
    hef_cl_ai_ah hhn_ai_ah cBEH_ad_fk_ai_ah eje_ai_ah eie_ai_ah ecx_ai_ah eef_cl_ai_ah ehn_ai_ah
    cTEH_ad_fk_ai_ah eje_ai_ah eie_ai_ah ecx_ai_ah eef_cl_ai_ah ehn_ai_ah cTHEH_ad_fk_ai_ah
    ecx_ai_ah eef_cl_ai_ah ehn_ai_ah cfk_ad_je_ai_ah ecx_ai_ah cje_ad_fk_ai_ah ecx_ai_ah
    cie_ad_fk_ai_ah eje_ai_ah ecx_ai_ah con_ad_fk_ai_ah eje_ai_ah eie_ai_ah ecx_ai_ah
    cSAD_ad_je_ai_ah ecx_ai_ah cDAD_ad_fk_ai_ah eje_ai_ah eie_ai_ah ecx_ai_ah cTAH_ad_je_ai_ah
    ecx_ai_ah cZAH_ad_cx_ai_ah cwl_ad_fk_ai_ah ecx_ai_ah cox_ad_fk_ai_ah ecx_ai_ah cFEH_ad_fk_ai_ah
    eje_ai_ah eie_ai_ah ecx_ai_ah eef_cl_ai_ah ehn_ai_ah cQAF_ad_je_ai_ah ecx_ai_ah eef_cl_ai_ah
    ehn_ai_ah czb_ad_ef_ai_ah efk_ai_ah eje_ai_ah eie_ai_ah eud_ai_ah ecx_ai_ah eef_cl_ai_ah
    ehn_ai_ah cud_ad_fk_ai_ah eje_ai_ah eie_ai_ah ecx_ai_ah eef_cl_ai_ah ehn_ai_ah ccx_ad_fk_ai_ah
    eje_ai_ah eie_ai_ah ecx_ai_ah eef_cl_ai_ah ehn_ai_ah cki_ad_fk_ai_ah eje_ai_ah eie_ai_ah
    ecx_ai_ah eef_cl_ai_ah ehn_ai_ah cHEH_ad_fk_ai_ah ecx_ai_ah eef_cl_ai_ah ehn_ai_ah
    chn_ad_fk_ai_ah eje_ai_ah eie_ai_ah ecx_ai_ah eef_cl_ai_ah ehn_ai_ah cTHAL_ad_ho_ef_ai_ah
    cyb_ad_ho_ef_ai_ah cef_cl_ad_ho_ef_ai_ah cSHADDA_ad_yo_ai_ah ezc_ai_ah eun_ai_ah eyn_ai_ah
    ett_ai_ah eho_ef_ai_ah chn_ad_id_al_ad_yb_at_ah hZAIN_at_ah hcx_at_ah hki_at_ah hef_cl_at_ah
    hhn_at_ah cBEH_ad_yb_at_ah eZAIN_at_ah ecx_at_ah eki_at_ah eef_cl_at_ah ehn_at_ah
    cTEH_ad_yb_at_ah eZAIN_at_ah ecx_at_ah eki_at_ah eef_cl_at_ah ehn_at_ah cTHEH_ad_yb_at_ah
    eZAIN_at_ah ecx_at_ah eki_at_ah eef_cl_at_ah ehn_at_ah cFEH_ad_ef_cl_at_ah ehn_at_ah
    cQAF_ad_ef_cl_at_ah ehn_at_ah czb_ad_ef_at_ah eud_at_ah ecx_at_ah eef_cl_at_ah ehn_at_ah
    cud_ad_cx_at_ah eef_cl_at_ah ehn_at_ah ccx_ad_ef_at_ah ecx_at_ah cki_ad_yb_at_ah eZAIN_at_ah
    ecx_at_ah eki_at_ah eef_cl_at_ah ehn_at_ah cef_cl_ad_ho_ef_at_ah chn_ad_yb_at_ah eZAIN_at_ah
    ecx_at_ah eki_at_ah eef_cl_at_ah ehn_at_ah eid_al_ad_fk_ar_ah hje_ar_ah hie_ar_ah hcx_ar_ah
    hHEH_ar_ah cBEH_ad_fk_ar_ah eje_ar_ah eie_ar_ah ecx_ar_ah eHEH_ar_ah cTEH_ad_fk_ar_ah eje_ar_ah
    eie_ar_ah ecx_ar_ah eHEH_ar_ah cTHEH_ad_cx_ar_ah cfk_ad_je_ar_ah ecx_ar_ah cje_ad_fk_ar_ah
    ecx_ar_ah cie_ad_fk_ar_ah ecx_ar_ah con_ad_fk_ar_ah eje_ar_ah eie_ar_ah ecx_ar_ah
    cSAD_ad_je_ar_ah eie_ar_ah ecx_ar_ah cDAD_ad_fk_ar_ah eje_ar_ah eie_ar_ah ecx_ar_ah
    cTAH_ad_je_ar_ah cZAH_ad_cx_ar_ah cwl_ad_fk_ar_ah ecx_ar_ah cox_ad_fk_ar_ah ecx_ar_ah
    cFEH_ad_fk_ar_ah eje_ar_ah eie_ar_ah ecx_ar_ah cQAF_ad_je_ar_ah ecx_ar_ah czb_ad_fk_ar_ah
    eje_ar_ah eie_ar_ah eud_ar_ah ecx_ar_ah cud_ad_fk_ar_ah eje_ar_ah eie_ar_ah ecx_ar_ah
    eHEH_ar_ah ccx_ad_fk_ar_ah eje_ar_ah eie_ar_ah ecx_ar_ah cki_ad_fk_ar_ah eje_ar_ah eie_ar_ah
    ecx_ar_ah eHEH_ar_ah cHEH_ad_fk_ar_ah ecx_ar_ah eho_ef_ar_ah chn_ad_fk_ar_ah eje_ar_ah
    eie_ar_ah ecx_ar_ah eHEH_ar_ah eid_al_ad_cx_ch_ah hHEH_ch_ah cBEH_ad_cx_ch_ah eHEH_ch_ah
    cTEH_ad_cx_ch_ah eHEH_ch_ah cTHEH_ad_cx_ch_ah eHEH_ch_ah con_ad_cx_ch_ah eHEH_ch_ah
    cnd_ad_cx_ch_ah eHEH_ch_ah czb_ad_ud_ch_ah ecx_ch_ah cud_ad_cx_ch_ah cki_ad_cx_ch_ah eHEH_ch_ah
    chn_ad_cx_ch_ah eHEH_ch_ah cSHADDA_ad_un_ch_ah eyn_ch_ah ett_ch_ah cTAH_ad_ef_cl_ai_ah
    ehn_ai_ah cwl_ad_ef_cl_ai_ah ehn_ai_ah cox_ad_ef_cl_ai_ah ehn_ai_ah con_ad_ef_cl_ai_ah
    ehn_ai_ah cnd_ad_ef_cl_ai_ah ehn_ai_ah cje_ad_ef_cl_ai_ah ehn_ai_ah cfk_ad_ef_cl_ai_ah
    ehn_ai_ah cie_ad_ef_cl_ai_ah ehn_ai_ah cSAD_ad_ef_cl_ai_ah ehn_ai_ah cDAD_ad_ef_cl_ai_ah
    ehn_ai_ah cnd_ad_fk_ai_ah eje_ai_ah eie_ai_ah ecx_ai_ah eyb_ai_ah con_ad_yb_ai_ah
    cSAD_ad_yb_ai_ah cDAD_ad_yb_ai_ah cTAH_ad_ef_cl_at_ah ehn_at_ah cwl_ad_ef_cl_at_ah ehn_at_ah
    cox_ad_ef_cl_at_ah ehn_at_ah con_ad_ef_cl_at_ah ehn_at_ah cnd_ad_ef_cl_at_ah ehn_at_ah
    cje_ad_ef_cl_at_ah ehn_at_ah cfk_ad_ef_cl_at_ah ehn_at_ah cie_ad_ef_cl_at_ah ehn_at_ah
    cSAD_ad_ef_cl_at_ah ehn_at_ah cDAD_ad_ef_cl_at_ah ehn_at_ah cnd_ad_fk_at_ah eje_at_ah eie_at_ah
    ecx_at_ah eyb_at_ah con_ad_yb_at_ah cSAD_ad_yb_at_ah cDAD_ad_yb_at_ah cnd_ad_fk_ar_ah eje_ar_ah
    eie_ar_ah ecx_ar_ah con_ad_HEH_ar_ah cnd_ad_HEH_ar_ah cTAH_ad_cx_ar_ah con_ad_fk_ch_ah
    eje_ch_ah eie_ch_ah cnd_ad_fk_ch_ah eje_ch_ah eie_ch_ah cTAH_ad_cx_ch_ah cZAH_ad_cx_ch_ah
    cef_ad_uo_at_ah fai_ah aORNATE_ax_cf bak_cf ako_eo_RAHIMAHU_ALLAAH cRADI_ALLAAHU_ANH eANHAA
    eANHUM eANHUMAA eANHUNNA cSALLALLAAHU_ALAYHI_WA-AALIH cALAYHI_AS-SALAAM cALAYHIM_AS-SALAAM
    cALAYHIMAA_AS-SALAAM cALAYHI_AS-SALAATU_WAS-SALAAM cQUDDISA_SIRRAH
    cSALLALLAHU_ALAYHI_WAAALIHEE_WA-SALLAM cALAYHAA_AS-SALAAM cTABAARAKA_WA-TAAALAA
    cRAHIMAHUM_ALLAAH cTEH_ad_fk_ad_cx_ar_ah eje_ad_fk_at_ah har_ah gcx_ar_ah eie_ad_cx_ar_ah
    ecx_ad_fk_ar_ah gje_ar_ah gie_ar_ah cfk_ad_cx_ad_je_at_ah har_ah cje_ad_cx_ad_hn_at_ah
    gef_cl_at_ah con_ad_je_ad_fk_ar_ah efk_ad_je_ar_ah gef_cl_at_ah ecx_ad_je_at_ah har_ah
    gfk_ar_ah gcx_at_ah har_ah cSAD_ad_je_ad_je_at_ah har_ah ecx_ad_cx_at_ah cnd_ad_je_ad_cx_at_ah
    har_ah efk_ad_hn_at_ah ecx_ad_ie_at_ah har_ah gcx_at_ah har_ah cDAD_ad_je_ad_ef_cl_at_ah
    eie_ad_cx_at_ah har_ah cTAH_ad_cx_ad_je_at_ah har_ah gcx_ar_ah ghn_at_ah cwl_ad_fk_ad_cx_at_ah
    ecx_ad_cx_at_ah har_ah gef_cl_at_ah cox_ad_cx_ad_cx_at_ah ghn_at_ah gef_cl_at_ah
    cFEH_ad_ie_ad_cx_at_ah har_ah cQAF_ad_cx_ad_je_at_ah gcx_at_ah cud_ad_je_ad_cx_at_ah ghn_at_ah
    gef_cl_at_ah efk_ad_fk_ar_ah hat_ah eie_ad_cx_at_ah har_ah ecx_ad_je_at_ah har_ah
    ccx_ad_je_ad_fk_ar_ah gcx_ar_ah ghn_at_ah efk_ad_je_ar_ah gcx_ar_ah eie_ad_fk_ar_ah gcx_ar_ah
    =FD92 efk_ad_ie_ar_ah cHEH_ad_cx_ad_fk_ar_ah gcx_ar_ah cki_ad_je_ad_cx_ar_ah gef_cl_at_ah
    efk_ad_cx_at_ah har_ah gef_cl_at_ah ecx_ad_hn_at_ah gef_cl_at_ah chn_ad_cx_ad_cx_at_ah har_ah
    cBEH_ad_ie_ad_hn_at_ah cTEH_ad_fk_ad_hn_at_ah gef_cl_at_ah eie_ad_hn_at_ah gef_cl_at_ah
    ecx_ad_hn_at_ah gef_cl_at_ah cfk_ad_cx_ad_hn_at_ah eje_ad_ef_cl_at_ah ecx_ad_ef_cl_at_ah
    con_ad_ie_ad_ef_cl_at_ah cSAD_ad_je_ad_hn_at_ah cnd_ad_je_ad_hn_at_ah cDAD_ad_je_ad_hn_at_ah
    cud_ad_fk_ad_hn_at_ah ecx_ad_hn_at_ah chn_ad_je_ad_hn_at_ah efk_ad_hn_at_ah ecx_ad_hn_at_ah
    ccx_ad_cx_ad_hn_at_ah cQAF_ad_cx_ad_hn_at_ah cki_ad_je_ad_hn_at_ah cQAF_ad_cx_ad_je_ar_ah
    cud_ad_je_ad_cx_ar_ah cwl_ad_cx_ad_hn_at_ah czb_ad_cx_ad_hn_at_ah cki_ad_fk_ad_je_ar_ah
    ccx_ad_ie_ad_hn_at_ah cud_ad_fk_ad_cx_ar_ah czb_ad_cx_ad_cx_at_ah cud_ad_fk_ad_cx_at_ah
    cki_ad_fk_ad_je_at_ah cfk_ad_je_ad_hn_at_ah cje_ad_fk_ad_hn_at_ah ccx_ad_fk_ad_hn_at_ah
    cFEH_ad_cx_ad_hn_at_ah cBEH_ad_je_ad_hn_at_ah czb_ad_cx_ad_cx_ar_ah cwl_ad_fk_ad_cx_ar_ah
    cSAD_ad_cx_ad_cx_ar_ah con_ad_ie_ad_hn_at_ah cki_ad_fk_ad_hn_at_ah =FDCF cSALAAMUHU_ALAYNAA
    =FDF0 cSALLA_USED_AS_KORANIC_gg_am_ai_ah cQALA_USED_AS_KORANIC_gg_am_ai_ah cALLAH_ai_ah
    cAKBAR_ai_ah cMOHAMMAD_ai_ah cSALAM_ai_ah cRASOUL_ai_ah cALAYHE_ai_ah cWASALLAM_ai_ah
    cSALLA_ai_ah cSALLALLAHOU_ALAYHE_WASALLAM cJALLAJALALOUHOU aRIAL_am
    ako_eo_BISMILLAH_AR-RAHMAN_AR-RAHEEM cSUBHAANAHU_WA_TAAALAA cAZZA_WA_JALL awg_SELECTOR-1
    bSELECTOR-2 bSELECTOR-3 bSELECTOR-4 bSELECTOR-5 bSELECTOR-6 bSELECTOR-7 bSELECTOR-8 bSELECTOR-9
    bSELECTOR-10 bSELECTOR-11 bSELECTOR-12 bSELECTOR-13 bSELECTOR-14 bSELECTOR-15 bSELECTOR-16
    atd_ah_tq_ap_ew egw_ew fii_gg eiv ejy edy_bl eff_bl eax_be_lb_bf eak_be_lb_BRAKCET eau_px =FE20
    adl_eo_ax_dj cak_dj ban_cs_ax_dj dak_dj bdr_ax_dj cak_dj bCONJOINING_dr beo_ax_dj_as cak_dj_as
    bcs_ax_dj_as cak_dj_as bdr_ax_dj_as cak_dj_as bCONJOINING_dr_as bjv_TITLO_ax_dj dak_dj
    atd_ah_tq_ap_cn_dc_LEADER eEM_jw eEN_jw eiy_ge eWAVY_iy_ge eax_cf eak_cf eax_kg_bf eak_kg_bf
    eax_if_ld_bf eak_if_ld_bf eax_az_lb_bf eak_az_lb_bf eax_an_ft_bf eak_an_ft_bf eax_ft_bf
    eak_ft_bf eax_hc_bf eak_hc_bf eax_be_hc_bf eak_be_hc_bf aSESAME_dc abe_SESAME_dc
    atd_ah_tq_ap_ax_bp_bf eak_bp_bf aor_ql aCENTRELINE_ql aWAVY_ql aan_WAVY_ql aor_iy_ge
    aCENTRELINE_iy_ge aWAVY_iy_ge aaf_ew bgw_ew bii_gg =FE54 bjy biv bff_bl bdy_bl bEM_jw bax_cf
    bak_cf bax_kg_bf bak_kg_bf bax_if_ld_bf bak_if_ld_bf bds_am bng bdk bdb_am bsu bbw_am bbj_am
    bgq_am =FE68 bhy_hl bDOLLAR_am bPERCENT_am bsq_AT =FE70 ako_uo_ai_ah bTATWEEL_ad_uo_al
    byo_ai_ah bia_FRAGMENT bzc_ai_ah =FE76 bun_ai_ah cch_ah byn_ai_ah cch_ah btt_ai_ah cch_ah
    bSHADDA_ai_ah cch_ah bSUKUN_ai_ah cch_ah bac_id_ai_ah cef_ad_MADDA_al_ai_ah gat_ah eid_al_ai_ah
    gat_ah cub_ad_id_al_ai_ah gat_ah cef_ad_id_as_ai_ah gat_ah chn_ad_id_al_ai_ah gat_ah gar_ah
    gch_ah cef_ai_ah dat_ah cBEH_ai_ah dat_ah dar_ah dch_ah cTEH_MARBUTA_ai_ah eat_ah dai_ah dat_ah
    dar_ah dch_ah cTHEH_ai_ah dat_ah dar_ah dch_ah cfk_ai_ah dat_ah dar_ah dch_ah cje_ai_ah dat_ah
    dar_ah dch_ah cie_ai_ah dat_ah dar_ah dch_ah cDAL_ai_ah dat_ah cTHAL_ai_ah dat_ah cyb_ai_ah
    dat_ah cZAIN_ai_ah dat_ah con_ai_ah dat_ah dar_ah dch_ah cnd_ai_ah dat_ah dar_ah dch_ah
    cSAD_ai_ah dat_ah dar_ah dch_ah cDAD_ai_ah dat_ah dar_ah dch_ah cTAH_ai_ah dat_ah dar_ah dch_ah
    cZAH_ai_ah dat_ah dar_ah dch_ah cwl_ai_ah dat_ah dar_ah dch_ah cox_ai_ah dat_ah dar_ah dch_ah
    cFEH_ai_ah dat_ah dar_ah dch_ah cQAF_ai_ah dat_ah dar_ah dch_ah czb_ai_ah dat_ah dar_ah dch_ah
    cud_ai_ah dat_ah dar_ah dch_ah ccx_ai_ah dat_ah dar_ah dch_ah cki_ai_ah dat_ah dar_ah dch_ah
    cHEH_ai_ah dat_ah dar_ah dch_ah cub_ai_ah dat_ah cef_cl_ai_ah eat_ah chn_ai_ah dat_ah dar_ah
    dch_ah beo_ud_ad_ef_ad_MADDA_al_ai_ah iat_ah gid_al_ai_ah iat_ah has_ai_ah iat_ah fai_ah fat_ah
    =FEFF afb_WIDTH_NO-BREAK_lr =FF01 aFULLWIDTH_dy_bl bej_bl bds_am bDOLLAR_am bPERCENT_am bng bky
    bax_cf bak_cf bdk bdb_am bew bsu bii_gg bhl bct_fb ccu ccn cay cbv cca cga cbx cbt cdo biv bjy
    bbw_am bgq_am bbj_am bff_bl bsq_AT bfu_ae_ac_A eB eC eD eE eF eG eH eI eJ eK eL eM eN eO eP eQ
    eR eS eT eU eV eW eX eY eZ bax_bp_bf bhy_hl bak_bp_bf bbg_fv biy_ge bei_fv bfu_af_ac_A eB eC eD
    eE eF eG eH eI eJ eK eL eM eN eO eP eQ eR eS eT eU eV eW eX eY eZ bax_kg_bf bap_ge bak_kg_bf
    bcs bax_be_cf bak_be_cf aHALFWIDTH_gw_ii_gg bax_hc_bf bak_hc_bf bgw_ew blo_bd_dc cac_WO daf_A
    eI eU eE eO eYA eYU eYO eTU bks_PROLONGED_oz_bl blo_ac_A dI dU dE dO dKA dKI dKU dKE dKO dSA
    dSI dSU dSE dSO dTA dTI dTU dTE dTO dNA dNI dNU dNE dNO dHA dHI dHU dHE dHO dMA dMI dMU dME dMO
    dYA dYU dYO dRA dRI dRU dRE dRO dWA dN ctp_oz_bl cSEMI-VOICED_oz_bl bst_up cac_xh dvo
    dKIYEOK-SIOS dNIEUN dvc dvd dxz dvp dRIEUL dte dvi dvj dxp dwu dwt dvh dMIEUM dPIEUP dxx dxo
    dSIOS dSSANGSIOS dIEUNG dCIEUC dxw dsp dsw dtl dtc dHIEUH =FFC2 dA dAE dYA dYAE dEO dE =FFCA
    dYEO dYE dO dWA dWAE dOE =FFD2 dYO dU dWEO dWE dWI dYU =FFDA dEU dYI dI =FFE0
    aFULLWIDTH_CENT_am bPOUND_am bmw_am bdr bBROKEN_gh bYEN_am bWON_am =FFE8 aHALFWIDTH_FORMS_co_ap
    bao_ag bbr_ag baj_ag bba_ag baz_bp bbe_bq =FFF9 aINTERLINEAR_ANNOTATION_ANCHOR cee cTERMINATOR
    aOBJECT_REPLACEMENT_hv aREPLACEMENT_hv =10000 aLINEAR_B_il_B008_A dB038_E dB028_I dB061_O
    dB010_U dB001_DA dB045_DE dB007_DI dB014_DO dB051_DU dB057_JA dB046_JE =1000D dB036_JO dB065_JU
    dB077_KA dB044_KE dB067_KI dB070_KO dB081_KU dB080_MA dB013_ME dB073_MI dB015_MO dB023_MU
    dB006_NA dB024_NE dB030_NI dB052_NO dB055_NU dB003_PA dB072_PE dB039_PI dB011_PO dB050_PU
    dB016_QA dB078_QE dB021_QI dB032_QO =10028 dB060_RA dB027_RE dB053_RI dB002_RO dB026_RU
    dB031_SA dB009_SE dB041_SI dB012_SO dB058_SU dB059_TA dB004_TE dB037_TI dB005_TO dB069_TU
    dB054_WA dB075_WE dB040_WI dB042_WO =1003C dB017_ZA dB074_ZE =1003F dB020_ZO dB025_A2 dB043_A3
    dB085_AU dB071_DWE dB090_DWO dB048_NWA dB029_PU2 dB062_PTE dB076_RA2 dB033_RA3 dB068_RO2
    dB066_TA2 dB087_TWE dB091_cn =10050 caw_B018 dB019 dB022 dB034 dB047 dB049 dB056 dB063 dB064
    dB079 dB082 dB083 dB086 dB089 =10080 cyy_B100_MAN dB102_WOMAN dB104_DEER dB105_EQUID
    dB105F_MARE dB105M_STALLION dB106F_EWE dB106M_RAM dB107F_SHE-GOAT dB107M_HE-GOAT dB108F_SOW
    dB108M_BOAR dB109F_COW dB109M_BULL dB120_WHEAT dB121_BARLEY dB122_OLIVE dB123_SPICE
    dB125_CYPERUS cvb_B127_KAPO dB128_KANAKO cyy_B130_OIL dB131_WINE dB132 cvb_B133_AREPA
    dB135_MERI cyy_B140_BRONZE dB141_GOLD dB142 dB145_WOOL dB146 dB150 dB151_lk dB152 dB153 dB154
    cvb_B156_TURO2 cyy_B157 dB158 dB159_CLOTH dB160 dB161 dB162_GARMENT dB163_ARMOUR dB164 dB165
    dB166 dB167 dB168 dB169 dB170 dB171 dB172 dB173_MONTH dB174 dB176_TREE dB177 dB178 dB179 dB180
    dB181 dB182 dB183 dB184 dB185 dB189 dB190 dB191_HELMET dB220_FOOTSTOOL dB225_BATHTUB
    dB230_SPEAR dB231_ag dB232 dB233_SWORD dB234 dB236 dB240_WHEELED_CHARIOT dB241_CHARIOT
    dB242_CHARIOT_FRAME dB243_WHEEL dB245 dB246 cvb_B247_DIPTE cyy_B248 dB249 dB251 dB252 dB253
    dB254_DART dB255 dB256 dB257 dB258 dB259 dVESSEL_B155 eB200 eB201 eB202 eB203 eB204 eB205 eB206
    eB207 eB208 eB209 eB210 eB211 eB212 eB213 eB214 eB215 eB216 eB217 eB218 eB219 eB221 eB222 eB226
    eB227 eB228 eB229 eB250 eB305 =10100 aAEGEAN_WORD_ee_ge ddc buk_bl =10107 bds_cu ccn cay cbv
    cca cga cbx cbt cdo ckc cfn cjp cog cir coy cfh cmq cgc ccu_bb ccn_bb cay_bb cbv_bb cca_bb
    cga_bb cbx_bb cbt_bb cdo_bb ccu_bc ccn_bc cay_bc cbv_bc cca_bc cga_bc cbx_bc cbt_bc cdo_bc
    ckc_bc cfn_bc cjp_bc cog_bc cir_bc coy_bc cfh_bc cmq_bc cgc_bc =10137 bWEIGHT_BASE_UNIT
    cFIRST_tk cSECOND_tk ctv_tk cFOURTH_tk bDRY_zg_FIRST_tk bLIQUID_zg_FIRST_tk bzg_SECOND_tk
    ctv_tk akr_ACROPHONIC_ATTIC_cu_fl edj eDRACHMA dca dir dca_bb ebc dir_bc dca_wf dkc_wf dir_wf
    dcu_bb_wf dca_bb_wf dcu_bc_wf dca_bc_wf etj dkc_tj dir_tj dcu_bb_tj dca_bb_tj dcu_bc_tj
    dkc_bc_tj dir_bc_tj dkc_MNAS cHERAEUM_cu_PLETHRON cvq_cu cHERMIONIAN_cu cEPIDAUREAN_cn cvq_cn
    cCYRENAIC_cn_DRACHMAS cEPIDAUREAN_cn_DRACHMAS cTROEZENIAN_ca dkc efr_ah cHERMIONIAN_kc
    cMESSENIAN_kc cvq_kc djp cTROEZENIAN_ir efr_ah cHERMIONIAN_ir cvq_ir dcu_bb day_bb
    cEPIDAUREAN_ca_bb cTROEZENIAN_ca_bb cvq_ca_bb cCARYSTIAN_ca_bb cNAXIAN_ca_bb cvq_cu_bc dca_bc
    cDELPHIC_ca_MNAS cSTRATIAN_ir_MNAS bcu_dj_am efr_ah bcn_vr_am bay_jn_am bYEAR_am bTALENT_am
    bDRACHMA_am bOBOL_am bcn_OBOLS_am bay_OBOLS_am bbv_OBOLS_am bca_OBOLS_am bMETRETES_am
    bKYATHOS_BASE_am bLITRA_am bOUNKIA_am bXESTES_am bARTABE_am bAROURA_am bGRAMMA_am
    bTRYBLION_BASE_am bfb_am bcu_fl_am bSINUSOID_am bINDICTION_am aNOMISMA_am =10190
    aROMAN_SEXTANS_am bUNCIA_am bSEMUNCIA_am bSEXTULA_am bDIMIDIA_SEXTULA_am bSILIQUA_am
    bDENARIUS_am bQUINARIUS_am bSESTERTIUS_am bDUPONDIUS_am bAS_am bCENTURIAL_am aASCIA_aw =101A0
    akr_aw_TAU_RHO =101D0 aPHAISTOS_DISC_am_PEDESTRIAN dPLUMED_ty dTATTOOED_ty dCAPTIVE dCHILD
    dWOMAN dHELMET dGAUNTLET dTIARA dag dBOW dSHIELD dCLUB dMANACLES dMATTOCK dSAW dLID dBOOMERANG
    dCARPENTRY_PLANE dDOLIUM dCOMB dSLING dCOLUMN dBEEHIVE dSHIP dlk dHIDE dBULLS_LEG dCAT dRAM
    dEAGLE dDOVE dTUNNY dBEE dPLANE_TREE dVINE dPAPYRUS dROSETTE dLILY dOX_BACK dFLUTE dGRATER
    dSTRAINER daf_AXE dWAVY_BAND ddl_kv_av =10280 aLYCIAN_ac_A cE cB cBH cG cD cI cW cZ cTH cJ cK
    cQ cL cM cN cMM cNN cU cP cKK cR cS cT cTT cAN cEN cH cX =102A0 aCARIAN_ac_A cP2 cD cL cUUU cR
    cLD cA2 cQ cB cM cO cD2 cT cSH cSH2 cS cC-18 cU cNN cX cN cTT2 cP cSS cI cE cUUUU cK cK2 cND
    cUU cG cG2 cST cST2 cNG cII cC-39 cTT cUUU2 cRR cMB cMB2 cMB3 cMB4 cLD2 cE2 cUUU3 =102E0
    ain_EPACT_nq_bl cct_cu dcn day dbv dca dga dbx dbt ddo cds_kc dfn djp dog dir doy dfh dmq dgc
    dcu_bb dcn_bb day_bb dbv_bb dca_bb dga_bb dbx_bb dbt_bb ddo_bb =10300 aol_rn_ac_A dBE dKE dDE
    dE dVE dZE dHE dua dI dKA dEL dEM dEN dESH dO dPE dwk dKU dER dES dTE dU dEKS dPHE dKHE dEF
    dERS dCHE dII dUU dESS cpf_cu dca dkc dir =1032D cac_YE dNORTHERN_TSE dSOUTHERN_TSE
    aGOTHIC_ac_AHSA cBAIRKAN cGIBA cDAGS cAIHVUS cQAIRTHRA cIUJA cHAGL cTHIUTH cEIS cKUSMA cLAGUS
    cMANNA cNAUTHS cJER cURUS cPAIRTHRA cgc cRAIDA cSAUIL cTEIWS cWINJA cFAIHU cIGGWS cHWAIR cOTHAL
    cdo_bb =10350 aol_PERMIC_ac_AN dBUR dGAI dDOI dE dZHOI dDZHOI dZATA dDZITA dI dKOKE dLEI dMENOE
    dNENOE dVOOI dPEEI dREI dSII dTAI dU dCHERY dSHOOI dSHCHOOI dYRY dYERU dO dOO dEF dHA dTSIU
    dVER dYER dYERI dYAT dIE dYU dYA dIA adl_ol_PERMIC_ac_AN eDOI eZATA eNENOE eSII =10380
    aUGARITIC_ac_ALPA ctx cGAMLA clu cmo cHO cWO cZETA cHOTA cTET cYOD czb cmz csa cMEM cDHAL cqv
    cZU cSAMKA cwl cPU cSADE cQOPA cRASHA cTHANNA cox cTO cI cU cSSU =1039F bWORD_yq
    aol_PERSIAN_am_A dI dU dKA dKU dGA dGU dXA dCA dJA dJI dTA dTU dDA dDI dDU dml dPA dBA dFA dNA
    dNU dMA dMI dMU dYA dVA dVI dRA dRU dLA dSA dZA dkx dsj dHA =103C8 dAURAMAZDAA dAURAMAZDAA-2
    dAURAMAZDAAHA dXSHAAYATHIYA dDAHYAAUSH dDAHYAAUSH-2 dBAGA dBUUMISH cWORD_yq cds_cu dcn dkc dfn
    dbb =10400 aDESERET_ae_ac_fm_I eE eA eAH eO eOO dfw_I eE eA eAH eO eOO dAY dOW dWU dYEE dH dPEE
    dBEE dTEE dDEE dCHEE dJEE dKAY dGAY dEF dVEE dETH dTHEE dES dZEE dESH dZHEE dER dEL dEM dEN
    dENG dOI dEW baf_ac_fm_I eE eA eAH eO eOO dfw_I eE eA eAH eO eOO dAY dOW dWU dYEE dH dPEE dBEE
    dTEE dDEE dCHEE dJEE dKAY dGAY dEF dVEE dETH dTHEE dES dZEE dESH dZHEE dER dEL dEM dEN dENG dOI
    dEW aSHAVIAN_ac_PEEP cTOT cKICK cFEE cTHIGH cSO cSURE cCHURCH cYEA cHUNG cBIB cDEAD cGAG cVOW
    cTHEY cZOO czg cJUDGE cWOE cHA-HA cLOLL cMIME cIF cEGG cqx cADO cON cWOOL cOUT cAH cROAR cqv
    cEAT cAGE cICE cUP cOAK cOOZE cOIL cAWE cARE cOR cAIR cERR cARRAY cEAR cIAN cYEW aOSMANYA_ac_ef
    cBA cTA cJA cXA clu cDEEL cRA cSA cSHIIN cpt cCAYN cGA cFA cQAAF cKAAF cLAAN cMIIN cNUUN cub
    cHA cYA cA cE cI cO cU cAA cEE cOO =104A0 bct_fb ccu ccn cay cbv cca cga cbx cbt cdo =104B0
    aOSAGE_ae_ac_A dAI dwl dAH dBRA dlm dEHCHA dE dEIN dHA dHYA dI dKA dEHKA dKYA dLA dMA dNA dO
    dOIN dPA dEHPA dSA dkx dTA dEHTA dzy dEHTSA dzz dpt dU dWA dlu dpm dZA dZHA =104D8 baf_ac_A dAI
    dwl dAH dBRA dlm dEHCHA dE dEIN dHA dHYA dI dKA dEHKA dKYA dLA dMA dNA dO dOIN dPA dEHPA dSA
    dkx dTA dEHTA dzy dEHTSA dzz dpt dU dWA dlu dpm dZA dZHA =10500 aELBASAN_ac_A cBE cCE cCHE cDE
    cNDE cDHE cEI cE cFE cGE cGJE cHE cI cJE cKE cLE cLLE cME cNE cNA cNJE cO cPE cQE cRE cRRE cSE
    cwk cTE cua cU cVE cXE cY cZE cZHE cGHE cGHAMMA cKHE =10530 aCAUCASIAN_ALBANIAN_ac_ALT dBET
    dGIM dDAT dEB dZARL dEYN dZHIL dTAS dlm dYOWD dZHA dIRB dkx dLAN dINYA dXEYN dDYAN dCAR dJHOX
    dKAR dLYIT dHEYT dQAY dAOR dCHOY dCHI dCYAY dMAQ dQAR dNOWC dDZYAY dSHAK dJAYN dON dTYAY dFAM
    dDZAY dCHAT dPEN dGHEYS dRAT dSEYK dVEYZ dTIWR dSHOY dIWN dCYAW dCAYN dYAYD dPIWR dKIW =1056F
    cCITATION_bl aVITHKUQI_ae_ac_A dBBE dBE dCE dCHE dDE dDHE dEI dE dFE dGA =1057C dHA dHHA dI
    dIJE dJE dKA dLA dLLA dME dNE dNJE dO dPE dQA dRE =1058C dSE dwk dTE dua dU dVE dXE =10594 dY
    dZE =10597 baf_ac_A dBBE dBE dCE dCHE dDE dDHE dEI dE dFE dGA =105A3 dHA dHHA dI dIJE dJE dKA
    dLA dLLA dME dNE dNJE dO dPE dQA dRE =105B3 dSE dwk dTE dua dU dVE dXE =105BB dY dZE =10600
    aLINEAR_A_am_AB001 dAB002 dAB003 dAB004 dAB005 dAB006 dAB007 dAB008 dAB009 dAB010 dAB011 dAB013
    dAB016 dAB017 dAB020 dAB021 dAB021F dAB021M dAB022 dAB022F dAB022M dAB023 dAB023M dAB024 dAB026
    dAB027 dAB028 dA028B dAB029 dAB030 dAB031 dAB034 dAB037 dAB038 dAB039 dAB040 dAB041 dAB044
    dAB045 dAB046 dAB047 dAB048 dAB049 dAB050 dAB051 dAB053 dAB054 dAB055 dAB056 dAB057 dAB058
    dAB059 dAB060 dAB061 dAB065 dAB066 dAB067 dAB069 dAB070 dAB073 dAB074 dAB076 dAB077 dAB078
    dAB079 dAB080 dAB081 dAB082 dAB085 dAB086 dAB087 dA100-102 dAB118 dAB120 dA120B dAB122 dAB123
    dAB131A dAB131B dA131C dAB164 dAB171 dAB180 dAB188 dAB191 dA301 dA302 dA303 dA304 dA305 dA306
    dA307 dA308 dA309A dA309B dA309C dA310 dA311 dA312 dA313A dA313B dA313C dA314 dA315 dA316 dA317
    dA318 dA319 dA320 dA321 dA322 dA323 dA324 dA325 dA326 dA327 dA328 dA329 dA330 dA331 dA332 dA333
    dA334 dA335 dA336 dA337 dA338 dA339 dA340 dA341 dA342 dA343 dA344 dA345 dA346 dA347 dA348 dA349
    dA350 dA351 dA352 dA353 dA354 dA355 dA356 dA357 dA358 dA359 dA360 dA361 dA362 dA363 dA364 dA365
    dA366 dA367 dA368 dA369 dA370 dA371 dA400-VAS dA401-VAS dA402-VAS dA403-VAS dA404-VAS dA405-VAS
    dA406-VAS dA407-VAS dA408-VAS dA409-VAS dA410-VAS dA411-VAS dA412-VAS dA413-VAS dA414-VAS
    dA415-VAS dA416-VAS dA417-VAS dA418-VAS dA501 dA502 dA503 dA504 dA505 dA506 dA508 dA509 dA510
    dA511 dA512 dA513 dA515 dA516 dA520 dA521 dA523 dA524 dA525 dA526 dA527 dA528 dA529 dA530 dA531
    dA532 dA534 dA535 dA536 dA537 dA538 dA539 dA540 dA541 dA542 dA545 dA547 dA548 dA549 dA550 dA551
    dA552 dA553 dA554 dA555 dA556 dA557 dA559 dA563 dA564 dA565 dA566 dA568 dA569 dA570 dA571 dA572
    dA573 dA574 dA575 dA576 dA577 dA578 dA579 dA580 dA581 dA582 dA583 dA584 dA585 dA586 dA587 dA588
    dA589 dA591 dA592 dA594 dA595 dA596 dA598 dA600 dA601 dA602 dA603 dA604 dA606 dA608 dA609 dA610
    dA611 dA612 dA613 dA614 dA615 dA616 dA617 dA618 dA619 dA620 dA621 dA622 dA623 dA624 dA626 dA627
    dA628 dA629 dA634 dA637 dA638 dA640 dA642 dA643 dA644 dA645 dA646 dA648 dA649 dA651 dA652 dA653
    dA654 dA655 dA656 dA657 dA658 dA659 dA660 dA661 dA662 dA663 dA664 =10740 dA701_A dA702_B
    dA703_D dA704_E dA705_F dA706_H dA707_J dA708_K dA709_L dA709-2_L2 dA709-3_L3 dA709-4_L4
    dA709-6_L6 dA710_W dA711_X dA712_Y dA713_hu dA714_ABB dA715_BB dA717_DD dA726_EYYY dA732_JE
    =10760 dA800 dA801 dA802 dA803 dA804 dA805 dA806 dA807 =10780 aez_ac_af_ae_AA cho_fc_iv
    ddj_fc_iv caf_AE dae_B dB_ad_by =10787 dDZ_gp fad_da_by grk dDEZH_gp dD_ad_ia fby gbk_ia dbs_E
    dgo_bs_fj_E dFENG_gp dRAMS_lk dae_G dG_ad_by dae_G_ad_by dH_ad_av dae_H dHENG_ad_by
    dlf_J_ad_av_bk_by dLS_gp dLZ_gp dL_ad_BELT dae_L_ad_BELT dL_ad_da_by_bk_BELT dLEZH ead_da_by
    dcj_Y fad_BELT dO_ad_av dae_OE dgo_hu dQ dcj_R_ad_fm_LEG ibk_da_by dR_ad_ia fry dae_R
    dTC_gp_ad_rk dTS_gp fad_da_by dTESH_gp dT_ad_da_by dV_ad_ak_by =107B2 dae_Y cgr_gg_ad_av
    cbs_gr_gg_ad_av cBILABIAL_wm cDENTAL_wm cLATERAL_wm cALVEOLAR_wm cda_wm_ad_da_by caf_S_ad_rk
    =10800 aCYPRIOT_il_A cE cI cO cU cJA =10808 cJO =1080A cKA cKE cKI cKO cKU cLA cLE cLI cLO cLU
    cMA cME cMI cMO cMU cNA cNE cNI cNO cNU cPA cPE cPI cPO cPU cRA cRE cRI cRO cRU cSA cSE cSI cSO
    cSU cTA cTE cTI cTO cTU cWA cWE cWI cWO =10837 cXA cXE =1083C cZA =1083F cZO
    aIMPERIAL_ARAMAIC_ac_ow dwh dqb dsr dHE dub dsi dyw dTETH dYODH dxf dms dMEM dqv dmf dAYIN dPE
    drh dQOPH dRESH dmz dTAW =10857 chk_am cds_cu dcn day dkc dfn dcu_bb ebc dkc_bc
    aPALMYRENE_ac_ow cwh cqb csr cHE cub csi cyw cTETH cYODH cxf cms cMEM cat_qv cqv cmf cAYIN cPE
    crh cQOPH cRESH cmz cTAW bec_FLEURON bdd_FLEURON bds_cu ccn cay cbv cca ckc cfn
    aNABATAEAN_ac_at_ow cow cat_wh cwh cqb csr cat_HE cHE cub csi cyw cTETH cat_YODH cYODH cat_xf
    cxf cat_ms cms cat_MEM cMEM cat_qv cqv cmf cAYIN cPE crh cQOPH cRESH cat_mz cmz cTAW =108A7
    bds_cu ccn cay cbv bCRUCIFORM_ds_bv bds_ca ckc cfn ccu_bb =108E0 aHATRAN_ac_ow cwh cqb
    cDALETH-RESH cHE cub cZAYN cyw cTETH cYODH cxf cms cMEM cqv cmf cAYN cPE crh cQOPH =108F4 cmz
    cTAW =108FB bds_cu cca ckc cfn ccu_bb aPHOENICIAN_ac_ALF cBET cGAML cDELT cHE cWAU cZAI cHET
    cTET cYOD czb cLAMD cMEM cqv cSEMK cwl cPE cSADE cQOF cROSH cmz cTAU bds_cu ckc cfn ccu_bb ccn
    cay =1091F bWORD_ee aLYDIAN_ac_A cB cG cD cE cV cI cY cK cL cM cN cO cR cSS cT cU cF cQ cS cTT
    cAN cEN cLY cNN cC =1093F bfc_bl =10980 aMEROITIC_HIEROGLYPHIC_ac_A dE dI dO dYA dWA dBA dBA-2
    dPA dMA dNA dNA-2 dNE dNE-2 dRA dRA-2 dLA dlu dHHA dSA dSA-2 dSE dKA dQA dTA dTA-2 dTE dTE-2
    dTO dDA caw_VIDJ dVIDJ-2 bCURSIVE_ac_A dE dI dO dYA dWA dBA dPA dMA dNA dNE dRA dLA dlu dHHA
    dSA djb_SA dSE dKA dQA dTA dTE dTO dDA =109BC chs_pw_nb dcu_dj czf_RMT dIMN cds_cu dcn day dbv
    dca dga dbx dbt ddo dkc dfn djp dog dir doy dfh =109D2 dcu_bb dcn_bb day_bb dbv_bb dca_bb
    dga_bb dbx_bb dbt_bb ddo_bb dcu_bc dcn_bc day_bc dbv_bc dca_bc dga_bc dbx_bc dbt_bc ddo_bc
    dkc_bc dfn_bc djp_bc dog_bc dir_bc doy_bc dfh_bc dmq_bc dgc_bc dcu_bb_bc dcn_bb_bc day_bb_bc
    dbv_bb_bc dca_bb_bc dga_bb_bc dbx_bb_bc dbt_bb_bc ddo_bb_bc chs_cu_TWELFTH dcn_nb day_nb dbv_nb
    dca_nb dga_nb dbx_nb dbt_nb ddo_nb dkc_nb aKHAROSHTHI_ac_A bcp_am_I dU dcz_R =10A05 dE dO
    =10A0C cmt_bl bam_an_el_as ccv cfa bac_KA clu cGA cpm =10A15 cCA clm cJA =10A19 clp cpj ckb cpl
    cke cre cTA cml cDA cpt cNA cPA coa cBA crj cMA cYA cRA cLA cVA ckx csj cSA cZA cHA cKKA cTTTHA
    cTTTA cVHA =10A38 bam_gh_al cCAUDA cdc_as =10A3F bfo bct_cu ccn cay cbv bds_kc cfn ccu_bb dbc
    bhs_cu_dj =10A50 bce_dc caf_bq cbq cul_gh cMANGALAM cLOTUS cjh can_jh cLINES =10A60
    aol_ha_ARABIAN_ac_HE ems eyw eMEM eQOPH eub emz eRESH ewh eTAW eSAT exf eqv eKHETH erh emf eFE
    eef eAYN eDHADHE eqb esr eGHAYN eTETH eZAYN eDHALETH eYODH eTHAW eTHETH dds_cu eir dNUMERIC_nm
    bgl_ARABIAN_ac_HEH eud eje ecx eQAF eub eES-2 eyb eBEH eTEH eES-1 ezb eki eie eSAD eES-3 eFEH
    eef ewl eDAD eGEEM eDAL eox eTAH eZAIN eTHAL ehn eTHEH eZAH dds_cu ekc efn =10AC0
    aMANICHAEAN_ac_ow cwh cBHETH cqb cGHIMEL csr cHE cub bam_UD bac_si cZHAYIN cJAYIN cJHAYIN cyw
    cTETH cYODH cxf cXAPH cKHAPH cms cDHAMEDH cTHAMEDH cMEM cqv cmf cAYIN cAAYIN cPE cFE crh cQOPH
    cXOPH cQHOPH cRESH cmz cSSHIN cTAW bex_bl_al das =10AEB bds_cu cca ckc cfn ccu_bb bce_hm
    cFLEURON can_dc_WITHIN_dc cdc_WITHIN_dc d ccn_dw cge_up =10B00 aAVESTAN_ac_A cAA cAO cAAO cAN
    cAAN cAE cAEE cE cEE cO cOO cI cII cU cUU cKE cXE cXYE cXVE cGE cGGE cGHE cCE cJE cTE cua cDE
    cDHE cTTE cPE cFE cBE cBHE cNGE cNGYE cNGVE cNE cNYE cNNE cME cHME cYYE cYE cVE cRE cLE cSE cZE
    cwk cZHE cSHYE cSSHE cHE =10B39 bex_bl aTINY_cn_dw_dz_cu_dc_ce aaf_cn_dw_dz_cu_dc_ce
    aeh_cn_dw_dz_cu_dc_ce bcu_dc_dz_cn_dw_ce bcn_RINGS_dz_cu_el_ce bcu_el_dz_cn_RINGS_ce
    aINSCRIPTIONAL_PARTHIAN_ac_ow dwh dqb dsr dHE dub dsi dyw dTETH dYODH dxf dms dMEM dqv dmf
    dAYIN dPE drh dQOPH dRESH dmz dTAW =10B58 cds_cu dcn day dbv dkc dfn dcu_bb ebc bPAHLAVI_ac_ow
    dwh dqb dsr dHE dWAW-AYIN-RESH dsi dyw dTETH dYODH dxf dms dMEM-QOPH dqv dmf dPE drh dmz dTAW
    =10B78 cds_cu dcn day dbv dkc dfn dcu_bb ebc aPSALTER_PAHLAVI_ac_ow dwh dqb dsr dHE
    dWAW-AYIN-RESH dsi dyw dYODH dxf dms dMEM-QOPH dqv dmf dPE drh dmz dTAW =10B99 chk_bl ccj_hk_bl
    cbv_dw_ad_gu fdc =10BA9 cds_cu dcn day dbv dkc dfn dcu_bb =10C00 aol_TURKIC_ac_hp_A dgt_A eAE
    dhp_I dgt_I eE dhp_O eOE dgt_OE dhp_AB dgt_AB dhp_AEB dgt_AEB dhp_AG dgt_AG dhp_AEG dgt_AEG
    dhp_AD dgt_AD dhp_AED eEZ dgt_EZ dhp_AY dgt_AY dhp_AEY dgt_AEY dhp_AEK dgt_AEK dhp_OEK dgt_OEK
    dhp_AL dgt_AL dhp_AEL eELT eEM eAN eAEN dgt_AEN dhp_ENT dgt_ENT dhp_ENC dgt_ENC dhp_ENY dgt_ENY
    eANG dhp_ENG dgt_AENG dhp_EP eOP eIC eEC dgt_EC dhp_AQ dgt_AQ dhp_IQ dgt_IQ dhp_OQ dgt_OQ
    dhp_AR dgt_AR dhp_AER eAS eAES eqx dgt_qx dhp_ESH dgt_ESH dhp_AT dgt_AT dhp_AET dgt_AET dhp_OT
    eBASH =10C80 bHUNGARIAN_ae_ac_A eAA eEB eAMB eEC eENC eECS eED ebk eE eCLOSE_E eEE eEF eEG eEGY
    eEH eI eII eEJ eEK eAK eUNK eEL eELY eEM eEN eENY eO eOO exm_OE eRUDIMENTA_OE eOEE eEP eEMP eER
    efw_ER eES eESZ eET eENT eETY eECH eU eUU exm_UE eRUDIMENTA_UE eEV eEZ eEZS eENT-SHAPED_am eUS
    =10CC0 caf_ac_A eAA eEB eAMB eEC eENC eECS eED ebk eE eCLOSE_E eEE eEF eEG eEGY eEH eI eII eEJ
    eEK eAK eUNK eEL eELY eEM eEN eENY eO eOO exm_OE eRUDIMENTA_OE eOEE eEP eEMP eER efw_ER eES
    eESZ eET eENT eETY eECH eU eUU exm_UE eRUDIMENTA_UE eEV eEZ eEZS eENT-SHAPED_am eUS =10CFA
    cds_cu dca dkc dir dcu_bb ebc aHANIFI_ROHINGYA_ac_A dBA dPA dTA dpj dJA dCA dHA dlu dFA dDA dpl
    dRA dRRA dZA dSA dkx dKA dGA dLA dMA dNA dWA dKINNA_WA dYA dKINNA_YA dkt dlp dVA ccp_A dI dU dE
    dO cbl_SAKIN dNA_KHONNA cam_HARBAHAY dTAHALA dTANA dTASSI =10D30 cct_fb dcu dcn day dbv dca dga
    dbx dbt ddo =10E60 aRUMI_ct_cu ccn cay cbv cca cga cbx cbt cdo bds_kc cfn cjp cog cir coy cfh
    cmq cgc ccu_bb ccn_bb cay_bb cbv_bb cca_bb cga_bb cbx_bb cbt_bb cdo_bb bhs_cu_dj dfl dtv ccn_vr
    =10E80 aYEZIDI_ac_ELIF cBE cPE cPHE cua cSE cCIM cCHIM cCHHIM cHHA cXA cDAL cZAL cRA cRHA cZA
    cJA cSIN cmz cSAD cDAD cTA cZE cEYN cXHEYN cFA cVA dfr_ah cQAF czb cKHAF cGAF cud cMIM cqv cUM
    cub cOW cEW cHAY cYOT cET =10EAB bdl_id_bl cMADDA_bl bHYPHENATION_bl =10EB0 bac_ud_ad_dc_al
    cYOT_ad_bg_al =10F00 aol_SOGDIAN_ac_ow dat_ow dwh dat_wh dqb dHE dat_HE dub dsi dyw dYODH dxf
    dms dMEM dqv dat_qv fad_ap_ia dmf dAYIN dfr_AYIN dPE drh dat_rh fad_ap_ia dRESH-AYIN-DALETH dmz
    dTAW dat_TAW fad_ap_ia cds_cu dcn day dbv dca dkc dfn djp dcu_bb chs_cu_dj ceo_AYIN-DALETH
    =10F30 aSOGDIAN_ac_ow cwh cqb cHE cub csi cyw cYODH cxf cms cMEM cqv cmf cAYIN cPE crh
    cRESH-AYIN cmz cTAW cFETH cLESH bla_mz bdl_dc_as ccn_dw_as cdc_al ccn_dw_al coc_al das cby_al
    das cfm_by_as cRESH_as cav_as bds_cu ckc cfn ccu_bb bce_cn_ap_BARS fad_dw cbq_ad_dc
    ccn_ls_ad_dw cdj_bq_ad_dc =10F70 aol_UYGHUR_ac_ow dwh dGIMEL-HETH dub dsi dat_yw dYODH dxf dms
    dMEM dqv dmf dPE drh dRESH dmz dTAW dLESH cdl_dc_al eas dcn_dw_al fas cce_gh dcn_BARS edw
    dbv_dw =10FB0 aCHORASMIAN_ac_ow caf_ow cwh cqb csr cHE cub cCURLED_ub csi cyw cYODH cxf cms
    cMEM cqv cmf cAYIN cPE cRESH cmz cTAW bds_cu ccn cay cbv ckc cfn ccu_bb =10FE0 aELYMAIC_ac_ow
    cwh cqb csr cHE cub csi cyw cTETH cYODH cxf cms cMEM cqv cmf cAYIN cPE crh cQOPH cRESH cmz cTAW
    beo_ZAYIN-YODH =11000 aBRAHMI_am_dh ccv cfa coi coq bac_A cAA cI cII cU cUU ccz_R dRR dL dLL cE
    cAI cO cAU cKA clu cGA cpm ckt cCA clm cJA cuv clp cpj ckb cpl cke cre cTA cml cDA cpt cNA cPA
    coa cBA crj cMA cYA cRA cLA cVA ckx csj cSA cHA cLLA col_TAMIL_LLLA eRRA eNNNA bcp_am_AA
    dBHATTIPROLU_AA dI dII dU dUU dcz_R eRR eL eLL dE dAI dO dAU bfo bjh ban_jh bce_dc can_dc cge
    cul_gh cLOTUS =11052 bds_cu ccn cay cbv cca cga cbx cbt cdo ckc cfn cjp cog cir coy cfh cmq cgc
    ccu_bb dbc bct_fb ccu ccn cay cbv cca cga cbx cbt cdo bam_ol_TAMIL_fo bac_ol_TAMIL_fw_E fO
    bcp_am_ol_TAMIL_fw_E gO bac_ol_TAMIL_LLA =1107F bds_JOINER aKAITHI_am_dh ccv cfa bac_A cAA cI
    cII cU cUU cE cAI cO cAU cKA clu cGA cpm ckt cCA clm cJA cuv clp cpj ckb cpl cDDDHA cke cRHA
    cre cTA cml cDA cpt cNA cPA coa cBA crj cMA cYA cRA cLA cVA ckx csj cSA cHA bcp_am_AA dI dII dU
    dUU dE dAI dO dAU bam_fo cku bex_am bENUMERATION_am bds_am bhk_bl ban_hk_bl bjh ban_jh
    bcp_am_cz_R =110CD bds_am_al =110D0 aSORA_SOMPENG_ac_SAH dTAH dBAH dCAH dDAH dGAH dMAH dNGAH
    dLAH dNAH dVAH dPAH dYAH dRAH dje dKAH dJAH dNYAH dAH dEEH dIH dUH dOH dEH dMAE =110F0 cct_fb
    dcu dcn day dbv dca dga dbx dbt ddo =11100 aCHAKMA_am_dh ccv cfa bac_AA cI cU cE cKAA cKHAA
    cGAA cGHAA cNGAA cCAA cCHAA cJAA cJHAA cNYAA cTTAA cTTHAA cDDAA cDDHAA cNNAA cTAA cTHAA cDAA
    cDHAA cNAA cPAA cPHAA cBAA cBHAA cMAA cYYAA cYAA cRAA cLAA cWAA cSAA cHAA bcp_am_A dI dII dU
    dUU dE dAI dO dAU dOI bO_bl bAU_bl bfo bMAAYYAA =11136 bct_fb ccu ccn cay cbv cca cga cbx cbt
    cdo bhk_bl bjh ban_jh bff_bl bac_LHAA bcp_am_AA dEI bac_VAA =11150 aMAHAJANI_ac_A cI cU cE cO
    cKA clu cGA cpm cCA clm cJA cuv clp cpj ckb cpl cke cre cTA cml cDA cpt cNA cPA coa cBA crj cMA
    cRA cLA cVA cSA cHA cRRA bam_ku bex_am bhk_bl beo_SHRI =11180 aSHARADA_am_dh ccv cfa bac_A cAA
    cI cII cU cUU ccz_R dRR dL dLL cE cAI cO cAU cKA clu cGA cpm ckt cCA clm cJA cuv clp cpj ckb
    cpl cke cre cTA cml cDA cpt cNA cPA coa cBA crj cMA cYA cRA cLA cLLA cVA ckx csj cSA cHA
    bcp_am_AA dI dII dU dUU dcz_R eRR eL eLL dE dAI dO dAU bam_fo cit coi coq bOM bjh ban_jh bex_am
    bee bSANDHI_bl bam_ku bcp_ez_bl bEXTRA_fw_cp_bl bSUTRA_bl bcp_am_ws_E bam_cc_dh bct_fb ccu ccn
    cay cbv cca cga cbx cbt cdo bEKAM bam_wc bHEADSTROKE bCONTINUATION_am bhk_MARK-1 cMARK-2 =111E1
    aSINHALA_jb_ct_cu dcn day dbv dca dga dbx dbt ddo cds_kc dfn djp dog dir doy dfh dmq dgc dcu_bb
    ebc =11200 aKHOJKI_ac_A cAA cI cU cE cAI cO cAU cKA clu cGA cGGA cpm ckt cCA clm cJA cJJA
    =11213 clp cpj ckb cpl cke cre cTA cml cDA cDDDA cpt cNA cPA coa cBA cBBA crj cMA cYA cRA cLA
    cVA cSA cHA cLLA bcp_am_AA dI dII dU dE dAI dO dAU bam_cv cfo cku cSHADDA bjh ban_jh bWORD_ee
    bhk_bl ban_hk_bl bex_am bam_SUKUN =11280 aMULTANI_ac_A cI cU cE cKA clu cGA =11288 cpm =1128A
    cCA clm cJA cJJA =1128F clp cpj ckb cpl cDDDA cke cre cTA cml cDA cpt cNA cPA coa cBA =1129F
    crj cMA cYA cRA cLA cVA cSA cHA cRRA cRHA bhk_bl =112B0 aKHUDAWADI_ac_A cAA cI cII cU cUU cE
    cAI cO cAU cKA clu cGA cGGA cpm ckt cCA clm cJA cJJA cuv clp cpj ckb cpl cDDDA cRRA cke cre cTA
    cml cDA cpt cNA cPA coa cBA cBBA crj cMA cYA cRA cLA cVA ckx cSA cHA bam_cv bcp_am_AA dI dII dU
    dUU dE dAI dO dAU bam_ku cfo =112F0 bct_fb ccu ccn cay cbv cca cga cbx cbt cdo =11300
    aGRANTHA_am_dl_cv_al cdh ccv cfa =11305 bac_A cAA cI cII cU cUU ccz_R dL =1130F cEE cAI =11313
    cOO cAU cKA clu cGA cpm ckt cCA clm cJA cuv clp cpj ckb cpl cke cre cTA cml cDA cpt cNA =1132A
    cPA coa cBA crj cMA cYA cRA =11332 cLA cLLA =11335 cVA ckx csj cSA cHA =1133B adl_BINDU_as
    aGRANTHA_am_ku cit bcp_am_AA dI dII dU dUU dcz_R eRR =11347 dEE dAI =1134B dOO dAU bam_fo
    =11350 bOM =11357 bAU_mt_bl =1135D bam_PLUTA bac_VEDIC_cv dan_cv ccz_RR dLL bcp_am_cz_L eLL
    =11366 adl_GRANTHA_ct_fb dcu dcn day dbv dca dga =11370 cac_A dKA dNA dVI dPA =11400 aNEWA_ac_A
    cAA cI cII cU cUU ccz_R dRR dL dLL cE cAI cO cAU cKA clu cGA cpm ckt cNGHA cCA clm cJA cuv clp
    cNYHA cpj ckb cpl cke cre cTA cml cDA cpt cNA cNHA cPA coa cBA crj cMA cMHA cYA cRA cRHA cLA
    cLHA cWA ckx csj cSA cHA bcp_am_AA dI dII dU dUU dcz_R eRR eL eLL dE dAI dO dAU bam_fo cdh ccv
    cfa cku cit cat_cv bOM bSIDDHI bjh ban_jh bew bGAP_up bex_am bct_fb ccu ccn cay cbv cca cga cbx
    cbt cdo ban_ew bPLACEHOLDER_bl =1145D bINSERTION_am bSANDHI_bl bac_VEDIC_cv bam_oi coq =11480
    aTIRHUTA_ANJI bac_A cAA cI cII cU cUU ccz_R dRR dL dLL cE cAI cO cAU cKA clu cGA cpm ckt cCA
    clm cJA cuv clp cpj ckb cpl cke cre cTA cml cDA cpt cNA cPA coa cBA crj cMA cYA cRA cLA cVA ckx
    csj cSA cHA bcp_am_AA dI dII dU dUU dcz_R eRR eL eLL dE dfw_E dAI dO dfw_O dAU bam_dh ccv cfa
    cfo cku cit bGVANG bex_am bOM =114D0 bct_fb ccu ccn cay cbv cca cga cbx cbt cdo =11580 awc_ac_A
    cAA cI cII cU cUU ccz_R dRR dL dLL cE cAI cO cAU cKA clu cGA cpm ckt cCA clm cJA cuv clp cpj
    ckb cpl cke cre cTA cml cDA cpt cNA cPA coa cBA crj cMA cYA cRA cLA cVA ckx csj cSA cHA
    bcp_am_AA dI dII dU dUU dcz_R eRR =115B8 dE dAI dO dAU bam_dh ccv cfa cfo cku cwc bjh ban_jh
    bee_dc cgh bREPETITION_MARK-1 cMARK-2 cMARK-3 buc_OF_TEXT_bl
    bhk_bl_ad_TRIDENT_bk_U-SHAPED_ORNAMENTS ggb_nj eRAYS_bk_gb_nj han_nj hev_nj dan_el fad_RAYS
    dad_an_nj eev_nj ekn_nj eSEPTUPLE_nj els_bk_RAYS gcn_ENCLOSURES gbv_ENCLOSURES
    bac_THREE-CIRCLE_fr_I cTWO-CIRCLE_fr_I eII cfr_U bcp_am_fr_U eUU =11600 aMODI_ac_A cAA cI cII
    cU cUU ccz_R dRR dL dLL cE cAI cO cAU cKA clu cGA cpm ckt cCA clm cJA cuv clp cpj ckb cpl cke
    cre cTA cml cDA cpt cNA cPA coa cBA crj cMA cYA cRA cLA cVA ckx csj cSA cHA cLLA bcp_am_AA dI
    dII dU dUU dcz_R eRR eL eLL dE dAI dO dAU bam_cv cfa cfo cARDHACANDRA bjh ban_jh bex_am
    bam_HUVA =11650 bct_fb ccu ccn cay cbv cca cga cbx cbt cdo =11660 aMONGOLIAN_yf_ad_cq bcr_yf
    ban_yf_ad_cq bev_yf_ad_cq byf_ad_an_cq bcr_yf_ad_cq ean_cq bcc_yf dad_an_cq bSWIRL_yf dad_cq
    ean_cq bcj_SWIRL_yf_ad_an_cq =11680 aTAKRI_ac_A cAA cI cII cU cUU cE cAI cO cAU cKA clu cGA cpm
    ckt cCA clm cJA cuv clp cpj ckb cpl cke cre cTA cml cDA cpt cNA cPA coa cBA crj cMA cYA cRA cLA
    cVA ckx cSA cHA cRRA bam_cv cfa bcp_am_AA dI dII dU dUU dE dAI dO dAU bam_fo cku bac_jb_lu
    bex_am =116C0 bct_fb ccu ccn cay cbv cca cga cbx cbt cdo =11700 aAHOM_ac_KA clu ckt cNA cTA
    cfr_TA cPA coa cBA cMA cJA clm cml cRA cLA cSA clp cHA cA cDA cpt cGA cfr_GA cpm crj cuv cfr_BA
    =1171D bfs_am_ch_LA eRA eLIGATING_RA bcp_am_A dAA dI dII dU dUU dE dAW dO dAI dAM bam_KILLER
    =11730 bct_fb ccu ccn cay cbv cca cga cbx cbt cdo bds_kc cfn bam_af_hk chk cRULAI baw_VI bac_CA
    cpj ckb cpl cke cre cLLA =11800 aDOGRA_ac_A cAA cI cII cU cUU cE cAI cO cAU cKA clu cGA cpm ckt
    cCA clm cJA cuv clp cpj ckb cpl cke cre cTA cml cDA cpt cNA cPA coa cBA crj cMA cYA cRA cLA cVA
    ckx csj cSA cHA cRRA bcp_am_AA dI dII dU dUU dcz_R eRR dE dAI dO dAU bam_cv cfa cfo cku bex_am
    =118A0 aWARANG_CITI_ae_ac_NGAA eA eWI eYU eYA eYO eII eUU eE eO eANG eGA eKO eENY eYUJ eUC eENN
    eODD eTTE eNUNG eDA eAT eAM eBU ePU eHIYO eHOLO eHORR eHAR eSSUU eSII eVIYO caf_ac_NGAA eA eWI
    eYU eYA eYO eII eUU eE eO eANG eGA eKO eENY eYUJ eUC eENN eODD eTTE eNUNG eDA eAT eAM eBU ePU
    eHIYO eHOLO eHORR eHAR eSSUU eSII eVIYO cct_fb dcu dcn day dbv dca dga dbx dbt ddo cds_kc dfn
    djp dog dir doy dfh dmq dgc =118FF cOM aDIVES_AKURU_ac_A dAA dI dII dU dUU dE =11909 dO =1190C
    dKA dlu dGA dpm dkt dCA dlm dJA =11915 dlp dpj =11918 dpl dke dre dTA dml dDA dpt dNA dPA doa
    dBA drj dMA dYA dYYA dRA dLA dVA dkx dsj dSA dHA dLLA dZA ccp_am_AA eI eII eU eUU eE =11937 eAI
    eO =1193B cam_cv ddh dHALANTA cfo cPREFIXED_NASAL_am cch_YA car_RA cch_RA cam_ku can_jh cGAP_up
    cuc_OF_TEXT_bl =11950 cct_fb dcu dcn day dbv dca dga dbx dbt ddo =119A0 aNANDINAGARI_ac_A cAA
    cI cII cU cUU ccz_R dRR =119AA cE cAI cO cAU cKA clu cGA cpm ckt cCA clm cJA cuv clp cpj ckb
    cpl cke cre cTA cml cDA cpt cNA cPA coa cBA crj cMA cYA cRA cLA cVA ckx csj cSA cHA cLLA cRRA
    bcp_am_AA dI dII dU dUU dcz_R eRR =119DA dE dAI dO dAU bam_cv cfa cfo cit cwc bHEADSTROKE
    bcp_am_ws_E =11A00 aZANABAZAR_bp_ac_A ccp_am_I eUE eU eE eOE eO eAI eAU ebs_I dmt_bl cac_KA dlu
    dGA dpm dkt dCA dlm dJA dlp dpj dkb dpl dke dre dTA dml dDA dpt dNA dPA doa dBA drj dMA dzy dzz
    dDZA dDZHA dZHA dZA d-A dYA dRA dLA dVA dkx dsj dSA dHA dKSSA cat_fs_bl cam_fo ddh ead_cq
    dmn_ad_cq dcv dfa cCLUSTER-INITIAL_ac_RA cCLUSTER-FINAL_ac_YA eRA eLA eVA car_ty_bl
    cCLOSING_ty_bl cbl_wx dxs dan_xs dfm_wx car_DOUBLE-LINED_ty_bl cCLOSING_DOUBLE-LINED_ty_bl
    cSUBJOINER =11A50 aSOYOMBO_ac_A bcp_am_I dUE dU dE dO dOE dAI dAU dcz_R eL cmt_bl bac_KA clu
    cGA cpm ckt cCA clm cJA cuv clp cpj ckb cpl cke cre cTA cml cDA cpt cNA cPA coa cBA crj cMA czy
    czz cDZA cZHA cZA c-A cYA cRA cLA cVA ckx csj cSA cHA cKSSA bam_oi coq bCLUSTER-INITIAL_ac_RA
    dLA dkx dSA bat_fs_am_G eK eNG eD eN eB eM eR eL eSH eS e-A bam_cv cfa bss_bl bSUBJOINER bbl_wx
    cxs can_xs cPLUTA bty_bl_ad_os_bk_SUN_bk_ev_FLAME iFLAME h bTERMINAL_MARK-1 cMARK-2 =11AB0
    aCANADIAN_SYLLABICS_NATTILIK_HI dHII dHO dHOO dHA dHAA dSHRI dSHRII dSHRO dSHROO dSHRA dSHRAA
    cSPE cSPI cSPO cSPA aPAU_CIN_HAU_ac_PA eKA eLA eMA eDA eZA eVA ekt eHA eGA elu eSA eBA eCA eTA
    eml eNA eoa eRA eFA elm eA eE eI eO eU eUA eIA eat_P fK fT fM fN fL fW fNG fY dot_fq_fm f
    dSANDHI_gr_gg dot_fq_fm_at fat dSANDHI_gr_gg_at efq_fm f ffm_at fat dMID-LEVEL_fq dgr_gg_ib
    dMID-LEVEL_fq_fm_at fat dLOW-FALLING_fq_fm f dgr_gg dLOW-FALLING_fq_fm_at fat dgr_gg_at =11C00
    aBHAIKSUKI_ac_A cAA cI cII cU cUU ccz_R dRR dL =11C0A cE cAI cO cAU cKA clu cGA cpm ckt cCA clm
    cJA cuv clp cpj ckb cpl cke cre cTA cml cDA cpt cNA cPA coa cBA crj cMA cYA cRA cLA cVA ckx csj
    cSA cHA bcp_am_AA dI dII dU dUU dcz_R eRR eL =11C38 dE dAI dO dAU bam_dh ccv cfa cfo cit bjh
    ban_jh bWORD_ee bGAP_FILLER-1 cFILLER-2 =11C50 bct_fb ccu ccn cay cbv cca cga cbx cbt cdo
    bds_cu ccn cay cbv cca cga cbx cbt cdo ckc cfn cjp cog cir coy cfh cmq cgc bHUNDREDS_UNIT_bl
    =11C70 aMARCHEN_ty_bl bbl_xs bac_KA clu cGA ckt cCA clm cJA clp cTA cml cDA cNA cPA coa cBA cMA
    czy czz cDZA cWA cZHA cZA c-A cYA cRA cLA ckx cSA cHA cA =11C92 bsf_ac_KA dlu dGA dkt dCA dlm
    dJA dlp dTA dml dDA dNA dPA doa dBA dMA dzy dzz dDZA dWA dZHA dZA =11CA9 dYA dRA dLA dkx dSA
    dHA dA bcp_am_AA dI dU dE dO bam_cv cdh =11D00 aMASARAM_GONDI_ac_A dAA dI dII dU dUU dE =11D08
    dAI dO =11D0B dAU dKA dlu dGA dpm dkt dCA dlm dJA duv dlp dpj dkb dpl dke dre dTA dml dDA dpt
    dNA dPA doa dBA drj dMA dYA dRA dLA dVA dkx dsj dSA dHA dLLA dKSSA dJNYA dTRA ccp_am_AA eI eII
    eU eUU ecz_R =11D3A eE =11D3C eAI eO =11D3F eAU cam_cv dfa dku dmn dHALANTA cfo cREPHA cRA-KARA
    =11D50 cct_fb dcu dcn day dbv dca dga dbx dbt ddo =11D60 aGUNJALA_GONDI_ac_A dAA dI dII dU dUU
    =11D67 dEE dAI =11D6A dOO dAU dYA dVA dBA drj dMA dKA dlu dTA dml dLA dGA dpm dDA dpt dNA dCA
    dlm dpj dkb dLLA dJA duv dpl dke dkt dPA doa dHA dRA dSA ccp_am_AA eI eII eU eUU =11D90 eEE eAI
    =11D93 eOO eAU cam_cv dfa cfo cOM =11DA0 cct_fb dcu dcn day dbv dca dga dbx dbt ddo =11EE0
    aMAKASAR_ac_KA cGA ckt cPA cBA cMA cTA cDA cNA cCA cJA clp cYA cRA cLA cVA cSA cA bANGKA
    bcp_am_I dU dE dO bPASSIMBANG buc_OF_hk =11FB0 aLISU_ac_YHA =11FC0
    aTAMIL_hs_cu_THREE-HUNDRED-AND-TWENTIETH drp dEIGHTIETH dzx dFORTIETH dwv cay_EIGHTIETHS
    dSIXTY-FOURTHS ccu_TWENTIETH dSIXTEENTH-1 dSIXTEENTH-2 dTENTH dic cay_TWENTIETHS dxv ccu_FIFTH
    dfl dHALF-1 dHALF-2 cay_jn cDOWNSCALING_FACTOR_KIIZH bam_NEL cCEVITU cAAZHAAKKU cUZHAKKU
    cMUUVUZHAKKU cKURUNI cPATHAKKU cMUKKURUNI cKAACU cPANAM cPON cVARAAKAN cPAARAM cKUZHI cVELI
    bWET_CULTIVATION_am bDRY_CULTIVATION_am bLAND_am bSALT_PAN_am bTRADITIONAL_CREDIT_am cds_am
    bCURRENT_am bbk_ODD_am bSPENT_am bTOTAL_am bIN_POSSESSION_am bSTARTING_mi_am bam_MUTHALIYA
    cVAKAIYARAA =11FFF bce_uc_OF_TEXT aCUNEIFORM_am_A dbu_A eBAD eur_ka eHA eIGI eLAGAR_ih eMUSH
    eSAG cA2 cAB dbu_ASH2 eDUN3_ih eGAL eur_ka eHA eIGI_ih eIMIN euy eSHESH eU_db_U_db_U dih cAB2
    dbu_BALAG eur_ka eME_db_EN eSHA3 exy cAD cAK dbu_ERIN2 eSHITA_db_xe cAL dbu_AL eDIM2 exe eHA
    eKAD3 eKI ewk eUSH cALAN cow cAMAR dbu_wk cAN ddz_AN day_bu ddb_NAGA_qk_AN_db_NAGA ffe cANSHE
    cAPIN cARAD dbu_KUR cARKAB cASAL2 cqx dZIDA_ka dKABA_ka ddz_qx_TUG2_dz_TUG2_TUG2_dz_TUG2_PAP
    fdz_qx hes_qx_dz_qx_dz_qx cASH2 cASHGAB cBA cBAD cBAG3 cBAHAR2 cBAL ddz_BAL cBALAG cgh cBARA2
    cBI dbu_A eGAR eIGI_ih cBU ddz_BU_AB fUN des_BU cBULUG ddz_BULUG cBUR cBUR2 cDA cDAG
    dKISIM5_bu_A_db_MASH fAMAR fBALAG fBI fGA gdb_MASH fGI fGIR2 fGUD fHA fIR gdb_LU fKAK fLA fLU
    gdb_MASH2 fLUM fNE fPAP_db_PAP fSI fxy fU2_db_GIR2 fUSH cDAM cDAR cDARA3 cDARA4 cDI cDIB cDIM
    dbu_wk cDIM2 cDIN dqe_U_ih_qw cqw cDU ddz_DU dih dti cDUB dbu_ESH2 cDUB2 cDUG cDUGUD cDUH cDUN
    cDUN3 dih eih cDUN4 cDUR2 cE dbu_PAP ddz_E_qv_dz_qv cE2 dbu_A_db_HA_db_DA eGAR eMI eSAL ewk eU
    cEDIN cEGIR cEL cEN dbu_ur fka eME des_EN dqk_EN dfe cEREN cERIN2 cESH2 cEZEN dbu_A fdb_LAL
    hbu_LAL eAN eBAD eDUN3_ih gih eHA fih eIGI_ih eqe ffe eKU3 eLA eLAL_bu_LAL eLI eLU eU2 eUD cGA
    dih cGA2 dbu_A_db_DA_db_HA gHA gIGI eAB2_ka_db_TAB eAN eqx eASH2_db_GAL eBAD egh_db_RA eBUR
    fdb_RA eDA eDI eDIM_bu_wk eDUB eEL fdb_LA eEN fbu_ur_ka eur_ka eGAR eGI eGI4 fdb_A eGIR2_db_SU
    eHA_db_LU_db_ESH2 eHAL fdb_LA eHI_db_LI eHUB2 eIGI_ih eISH_db_HU_db_qx eKAK eqe eKID fdb_LAL
    eKU3_db_AN eLA eME_db_EN eMI eqv fdz_qv ePA eSAL eSAR ewk fdb_TUR eSHID eSUM exy eU eUD fdb_DU
    ddz_GA2 cGABA des_GABA cGAD ddz_GAD_GAR_dz_GAR cGAL dGAD_dz_GAD_GAR_dz_GAR cGALAM cGAM cGAN cur
    dka ddz_ur des_ur cGAR cGAR3 cGASHAN cGESHTIN dbu_KUR cGI dbu_E eU des_GI cGI4 ddz_GI4 des_GI4
    cGIDIM cGIR2 dih cGIR3 dbu_A_db_IGI eur_ka eIGI eLU_db_IGI ePA cGISAL cxe des_xe dbu_BAD exy
    dka cGU des_GU cGU2 dbu_KAK fbu_IGI_ih eqv eSAL_db_TUG2 dih cGUD dbu_A_db_KUR eKUR
    ddz_GUD_LUGAL cGUL cGUM dbu_wk cGUR cGUR7 cGURUN cGURUSH cHA dka dih cHAL cHI dbu_qx eASH2 eBAD
    eqw eGAD eKIN eqv ewk eU cHU cHUB2 dbu_AN eHAL eqe eLISH eUD cHUL2 cI dA cIB cIDIM ddz_IDIM_BUR
    ffe cIG cIGI dDIB dRI ddz_IGI_SHIR_dz_SHIR_UD_dz_UD dih cIL dbu_ur_ka cIL2 cIM dbu_xy des_IM
    dqk_IM dfe cIMIN cIN cIR cISH cKA dbu_A eAD fdb_KU3 eASH2 eBAD eBALAG egh eBI eERIN2 eESH2 eGA
    eGAL eur_ka eGAR fdb_SHA3_db_A eGI eGIR2 exe_db_SAR fes_xe eGU eGUR7 eIGI eIM eKAK eKI eKID eLI
    eLU eME fdb_DU gGI gTE eMI fdb_NUNUZ eNE eqv ePI eRU eSA eSAR ekx ewk eSHID eSHU eSIG eSUHUR
    eTAR eU eU2 eUD eUMUM_bu_PA eUSH eZI cKA2 des_KA2 cKAB cKAD2 cKAD3 cKAD4 cKAD5 ddz_KAD5 cKAK
    dbu_IGI_ih cKAL dbu_BAD des_KAL cKAM2 cKAM4 cqe duy_bu_U_dz_uy_bu_U ddz_qe_uy_bu_U_dz_uy_bu_U
    cKESH2 cKI dbu_BAD eU eUD cKID cKIN cKISAL cKISH cKISIM5 ddz_KISIM5 cKU
    ddz_HI_bu_ASH2_KU_dz_HI_bu_ASH2 cKU3 cKU4 dib_ah cKU7 cKUL dih cKUN cKUR dqk_KUR cKUSHU2
    cKWU318 cLA cuy dbu_A fdb_DA_db_HA gGAR gLAL eAL eAN eqx_ZIDA_ka eBAD eBI eDAR eEN eGA eGAR
    eGUD fdb_GUD eHA eHAL eHI_bu_qv eIGI_ih eIM fdb_HA gLU eKI eKIN eKU3 eKUL fdb_HI_db_A euy eLISH
    eLU eLUL eME fdb_EN eMUSH eNE ewk_db_SUM eSHITA_db_xe_db_ERIN2 hka eSHU2 fdb_SHU2 eSUM eTAG exy
    eTE_db_A_db_SU_db_NA eU fdb_A gU_db_U eU2_db_qx eUD eUSH dfe cLAGAR dbu_wk fdb_SUM dih
    edz_LAGAR_ih_wk cLAHSHU cLAL dbu_LAL cud dbu_KUR fdb_RU cLI cLIL cLIMMU2 cLISH cLU dbu_BAD cLU2
    dbu_AL eBAD eESH2 fka eur_ka eHI_bu_BAD eIM eKAD2 eKAD3 fdb_qx eKI eLA_db_qx euy eME_db_EN eNE
    eNU eSI_db_qx eSIK2_db_BU eTUG2 dka des_LU2 dqk_LU2 dfe dti cLU3 cLUGAL ddz_LUGAL dqk_LUGAL dti
    cLUH cLUL cLUM ddz_LUM fGAR_dz_GAR cMA dbu_xy dih cMA2 cMAH cMAR cMASH cMASH2 cME cMES cMI cMIN
    cMU ddz_MU cMUG dih cMUNSUB cMURGU2 cMUSH dbu_A eKUR eZA ddz_MUSH fbu_A_db_NA des_MUSH cMUSH3
    dbu_A fdb_DI eDI dih cNA cNA2 cNAGA dcc dbu_SHU_ka dqk_NAGA cNAGAR cNAM_NUTILLU d cNAM2 cNE
    dbu_A eUD dti cNI dbu_E cNI2 cNIM dbu_ur_ka eGAR_db_ur_ka cNINDA2 dbu_AN eqx fdb_qx eGUD
    eME_db_ur_ka eNE eqv ewk fdb_A_AN gqx hdb_qx eU2_db_qx eUSH cNISAG cNU cNU11 cqv dLAGAR_bu_GAR
    fMASH fSAL gdz_qv_LAGAR_bu_SAL fUSH dka ddz_qv des_qv fLAGAR_dz_LAGAR cNUNUZ dAB2_bu_ASHGAB fBI
    fDUG fGUD fIGI_ih fKAD3 fLA fNE fSILA3 fU2 dKISIM5_bu_BI gU cPA cPAD cPAN cPAP cPESH2 cPI dbu_A
    eAB eBI eBU eE eI eIB eU eU2 des_PI cPIRIG dbu_KAL eUD eZA dqk_PIRIG cRA cRAB cRI cRU cSA
    cSAG_NUTILLU d dbu_A eDU eDUB eHA eKAK eKUR eLUM eMI eqv eSAL eSHID eTAB eU2 eUB eUM eUR eUSH
    ddz_SAG dih cSAL duy_bu_ASH2 cSANGA2 cSAR ckx cSHA3 dbu_A eBAD exe eNE eSHU2 eTUR eU fdb_A
    cSHA6 cSHAB6 czw cwk dHU ddz_wk_GAD_dz_GAD_GAR_dz_GAR fTAB_dz_TAB_GAR_dz_GAR cSHEG9 cSHEN
    cSHESH cSHESH2 cSHESHLAM cSHID dbu_A eIM cSHIM dbu_A eBAL eBULUG eDIN eGAR eIGI fih eKUSHU2
    eLUL eMUG eSAL cSHINIG cSHIR dka ddz_SHIR_BUR_dz_BUR cSHITA cSHU ddz_cc_SHU cSHU2 cSHUBUR cSI
    dih cSIG cSIG4 ddz_SIG4_SHU2 cSIK2 cSILA3 cSU ddz_SU cSUD cSUD2 cSUHUR cSUM cSUMASH cSUR cSUR9
    cTA ddk dbu_HI eMI dih cTAB ddz_TAB_NI_dz_NI_qw_dz_qw dfe cTAG dbu_BI eGUD ewk eSHU eTUG2 eUD
    cxy cTAR cTE dih cTI dka cTIL cTIR dbu_xy ddz_TIR fGAD_dz_GAD_GAR_dz_GAR cTU cTUG2 cTUK cTUM
    cTUR ddz_TUR_ZA_dz_ZA cU dGUD dU_U ddz_U_PA_dz_PA_GAR_dz_GAR fSUR_dz_SUR fU_bs_dz_U_bs cU2 cUB
    cUD dKUSHU2 dbu_BAD eMI eU_db_U_db_U jih dih dti ebu_BAD cUDUG cUM dbu_uy eME_db_DA eSHA3 eU
    cUMBIN cUMUM dbu_qe ePA cUN dih cUR des_UR dti cUR2 dbu_A_db_HA gNA eAL eHA eqv eU2 fdb_qx gBI
    cUR4 cURI cURI3 cURU dbu_A eASHGAB egh eDUN eGA eGAL eur_ka eGAR eGU eHA eIGI eIM eISH eKI eLUM
    eMIN ePA ewk eSIG4 eTU eU_db_GUD eUD eURUDA cURUDA dbu_U cUSH dbu_A eKU eKUR exy cUSHX cUSH2
    cUSHUMX cUTUKI cUZ3 dbu_qe cUZU cZA dka dfe_bu_KUR cZAG cZAMX cZE2 cZI ddz_ZI cZI3 cZIB
    dKABA_ka cZIG cZIZ2 cZU cZU5 dbu_A cZUBUR cZUM cKAP_ELAMITE cAB_bu_qv cAB2_bu_A cAMAR_bu_KUG
    cDAG_KISIM5_bu_U2_db_MASH cDAG3 cqw_db_SHU cDUB_bu_wk cEZEN_bu_GUD ewk cGA2_bu_AN_db_KAK_db_A
    eASH2 cGE22 cGIG cHUSH cKA_bu_ANSHE eASH3 exe eGUD eHI_bu_ASH2 eLUM ePA eSHUL eTU eUR2
    cuy_bu_GI cLU2_ti_bu_BAD dbu_ESH2_db_LAL eSHU cMESH cMUSH3_bu_ZA cNA4 cNIN cNIN9 cNINDA2_bu_BAL
    eGI cNU11_cr_gc_dp cPESH2_dk cPIR2 cSAG_bu_IGI_ih cTI2 cUM_bu_ME cU_U =12400 bNUMERIC_am_cn_qx
    day_qx dbv_qx dca_qx dga_qx dbx_qx dbt_qx ddo_qx day_qw dbv_qw dca_qw dga_qw dbx_qw dbt_qw
    ddo_qw dbv_U dca_U dga_U dbx_U dbt_U ddo_U dcu_GESH2 dcn_GESH2 day_GESH2 dbv_GESH2 dca_GESH2
    dga_GESH2 dbx_GESH2 dbt_GESH2 ddo_GESH2 dcu_GESHU dcn_GESHU day_GESHU dbv_GESHU dca_GESHU
    dcn_zw day_zw fib_ah dbv_zw dca_zw dga_zw dbx_zw dbt_zw ddo_zw dcu_SHARU dcn_SHARU day_SHARU
    fib_ah dbv_SHARU dca_SHARU dzw_bu_GAL_db_qw hMIN dcu_BURU dcn_BURU day_BURU fib_ah dbv_BURU
    dca_BURU day_ib_ah_ESH16 gESH21 dbv_ib_ah_LIMMU gLIMMU4 gLIMMU_A hB dga_ib_ah_ASH9
    dbx_ib_ah_IMIN3 gIMIN_A hB dbt_ib_ah_USSU gUSSU3 ddo_ib_ah_ILIMMU gILIMMU3 gILIMMU4 gILIMMU_A
    dcn_qx_ka day_qx_ka dbv_qx_ka dca_qx_ka dga_qx_ka dcu_BAN2 dcn_BAN2 day_BAN2 dbv_BAN2 fib_ah
    dca_BAN2 fib_ah dNIGIDAMIN dNIGIDAESH dcu_ESHE3 dcn_ESHE3 dcu_tv_qw dcn_vr_qw dca_SIXTHS_qw
    dcu_tv_ib_ah_A dcn_vr_ib_ah_A dcu_ic_qx efl_qx dol_ASSYRIAN_cu_SIXTH gfl dcu_fl_GUR edj_GUR
    dELAMITE_cu_tv ecn_vr eog eir dbv_U_ib_ah dca_U_ib_ah dga_U_ib_ah dbx_U_ib_ah dbt_U_ib_ah
    ddo_U_ib_ah =12470 bce_am_ol_ASSYRIAN_WORD_yq dap_iv ddn_iv eTRICOLON eQUADCOLON =12480
    bam_AB_bu_qv_ka eSHU2 cAD_bu_ESH2 cBAD_bu_qw_ka cBAHAR2_bu_AB2 eNI eZA cBU_dz_BU_bu_NA2
    cDA_bu_xy cDAG_bu_KUR cDIM_bu_IGI eU_U_U cDIM2_bu_UD cDUG_bu_ANSHE eqx fAT_ax eDIN eDUN eERIN2
    eGA eGI eGIR2_ih exe eHA eHI eIGI_ih eqe eKUR eKUSHU2 fdb_qe eLAK-020 eud fbu_KUR eLUH_db_xe
    eMASH eMES eMI eNI ePI ewk eSI_ih cE2_bu_KUR ePAP cERIN2_X cESH2_es_ESH2 cEZEN_ti_bu_qx fHI
    fIGI_ih fLA fLAL fME fMES fSU dbu_SU cGA2_bu_BAHAR2 eDIM_ih eDUG_bu_IGI_ih gqe eEREN eGA
    eGAR_db_DI gNE eHA_db_A eKUSHU2_db_qe eud fbu_KUR eLUH eMUSH eNE fdb_E2 gGI eSHIM eZIZ2
    cGABA_cr_gc_dp cGESHTIN_bu_U cxe_bu_xe_es_xe cGU2_bu_IGI_ih cGUD_db_xe_bu_xy cHA_ka_ih
    cHI_bu_qx_dz_HI_bu_qx cKA_bu_BU eKA eU_U_U eUR cuy_bu_ZU_dz_ZU cLAK-003 cLAK-021 cLAK-025
    cLAK-030 cLAK-050 cLAK-051 cLAK-062 cLAK-079_dz_LAK-079_ih cLAK-080 cLAK-081_dz_LAK-081
    cLAK-092 cLAK-130 cLAK-142 cLAK-210 cLAK-219 cLAK-220 cLAK-225 cLAK-228 cLAK-238 cLAK-265
    cLAK-266 cLAK-343 cLAK-347 cLAK-348 cLAK-383 cLAK-384 cLAK-390 cLAK-441 cLAK-449 dbu_GU eIGI
    ePAP_db_LU3 gPAP_db_LU3 eU2_db_BA cLAK-450 cLAK-457 cLAK-470 cLAK-483 cLAK-490 cLAK-492
    cLAK-493 cLAK-495 cLAK-550 cLAK-608 cLAK-617 dbu_qx eBAD eDUN3_ih_ih eKU3 eLA eTAR eTE eU2 eUD
    eURUDA cLAK-636 cLAK-648 dbu_DUB eGA eIGI fih eNI ePAP_db_PAP_db_LU3 eSHESH_db_KI eUD eURUDA
    cLAK-724 cLAK-749 cLU2_ih_bu_qx dbu_qw eHAL ePAP fdb_PAP_db_LU3 exy cMI_db_ZA7
    cMUSH_dz_MUSH_bu_GA gKAK cNINDA2_bu_DIM_ih exe eGUL eHI eKESH2 eLAK-050 eMASH ePAP_db_PAP eU
    fdb_U eURUDA cSAG_ih_bu_HA dbu_EN ewk_AT_ax exy cSHA6_ka cwk_dz_wk ddb_HUB2 eNAM2 eSAR
    cSHU2_db_DUG_bu_NI eE2_bu_AN cSI_bu_xy cxy_db_SAG cTUM_bu_ur_ka eay_qw cUR2_cc dbu_UD
    cURU_bu_DARA3 eLAK-668 eLU3 cZA7 cZU_dz_ZU_db_SAR cZU5_bu_ay_qw_ka =12F90
    aCYPRO-MINOAN_am_CM001 cCM002 cCM004 cCM005 cCM006 cCM007 cCM008 cCM009 cCM010 cCM011 cCM012
    cCM012B cCM013 cCM015 cCM017 cCM019 cCM021 cCM023 cCM024 cCM025 cCM026 cCM027 cCM028 cCM029
    cCM030 cCM033 cCM034 cCM035 cCM036 cCM037 cCM038 cCM039 cCM040 cCM041 cCM044 cCM046 cCM047
    cCM049 cCM050 cCM051 cCM052 cCM053 cCM054 cCM055 cCM056 cCM058 cCM059 cCM060 cCM061 cCM062
    cCM063 cCM064 cCM066 cCM067 cCM068 cCM069 cCM070 cCM071 cCM072 cCM073 cCM074 cCM075 cCM075B
    cCM076 cCM078 cCM079 cCM080 cCM081 cCM082 cCM083 cCM084 cCM085 cCM086 cCM087 cCM088 cCM089
    cCM090 cCM091 cCM092 cCM094 cCM095 cCM096 cCM097 cCM098 cCM099 cCM100 cCM101 cCM102 cCM103
    cCM104 cCM105 cCM107 cCM108 cCM109 cCM110 cCM112 cCM114 cCM301 cCM302 =13000
    aEGYPTIAN_HIEROGLYPH_A001 cA002 cA003 cA004 cA005 cA005A cA006 cA006A cA006B cA007 cA008 cA009
    cA010 cA011 cA012 cA013 cA014 cA014A cA015 cA016 cA017 cA017A cA018 cA019 cA020 cA021 cA022
    cA023 cA024 cA025 cA026 cA027 cA028 cA029 cA030 cA031 cA032 cA032A cA033 cA034 cA035 cA036
    cA037 cA038 cA039 cA040 cA040A cA041 cA042 cA042A cA043 cA043A cA044 cA045 cA045A cA046 cA047
    cA048 cA049 cA050 cA051 cA052 cA053 cA054 cA055 cA056 cA057 cA058 cA059 cA060 cA061 cA062 cA063
    cA064 cA065 cA066 cA067 cA068 cA069 cA070 cB001 cB002 cB003 cB004 cB005 cB005A cB006 cB007
    cB008 cB009 cC001 cC002 cC002A cC002B cC002C cC003 cC004 cC005 cC006 cC007 cC008 cC009 cC010
    cC010A cC011 cC012 cC013 cC014 cC015 cC016 cC017 cC018 cC019 cC020 cC021 cC022 cC023 cC024
    cD001 cD002 cD003 cD004 cD005 cD006 cD007 cD008 cD008A cD009 cD010 cD011 cD012 cD013 cD014
    cD015 cD016 cD017 cD018 cD019 cD020 cD021 cD022 cD023 cD024 cD025 cD026 cD027 cD027A cD028
    cD029 cD030 cD031 cD031A cD032 cD033 cD034 cD034A cD035 cD036 cD037 cD038 cD039 cD040 cD041
    cD042 cD043 cD044 cD045 cD046 cD046A cD047 cD048 cD048A cD049 cD050 cD050A cD050B cD050C cD050D
    cD050E cD050F cD050G cD050H cD050I cD051 cD052 cD052A cD053 cD054 cD054A cD055 cD056 cD057
    cD058 cD059 cD060 cD061 cD062 cD063 cD064 cD065 cD066 cD067 cD067A cD067B cD067C cD067D cD067E
    cD067F cD067G cD067H cE001 cE002 cE003 cE004 cE005 cE006 cE007 cE008 cE008A cE009 cE009A cE010
    cE011 cE012 cE013 cE014 cE015 cE016 cE016A cE017 cE017A cE018 cE019 cE020 cE020A cE021 cE022
    cE023 cE024 cE025 cE026 cE027 cE028 cE028A cE029 cE030 cE031 cE032 cE033 cE034 cE034A cE036
    cE037 cE038 cF001 cF001A cF002 cF003 cF004 cF005 cF006 cF007 cF008 cF009 cF010 cF011 cF012
    cF013 cF013A cF014 cF015 cF016 cF017 cF018 cF019 cF020 cF021 cF021A cF022 cF023 cF024 cF025
    cF026 cF027 cF028 cF029 cF030 cF031 cF031A cF032 cF033 cF034 cF035 cF036 cF037 cF037A cF038
    cF038A cF039 cF040 cF041 cF042 cF043 cF044 cF045 cF045A cF046 cF046A cF047 cF047A cF048 cF049
    cF050 cF051 cF051A cF051B cF051C cF052 cF053 cG001 cG002 cG003 cG004 cG005 cG006 cG006A cG007
    cG007A cG007B cG008 cG009 cG010 cG011 cG011A cG012 cG013 cG014 cG015 cG016 cG017 cG018 cG019
    cG020 cG020A cG021 cG022 cG023 cG024 cG025 cG026 cG026A cG027 cG028 cG029 cG030 cG031 cG032
    cG033 cG034 cG035 cG036 cG036A cG037 cG037A cG038 cG039 cG040 cG041 cG042 cG043 cG043A cG044
    cG045 cG045A cG046 cG047 cG048 cG049 cG050 cG051 cG052 cG053 cG054 cH001 cH002 cH003 cH004
    cH005 cH006 cH006A cH007 cH008 cI001 cI002 cI003 cI004 cI005 cI005A cI006 cI007 cI008 cI009
    cI009A cI010 cI010A cI011 cI011A cI012 cI013 cI014 cI015 cK001 cK002 cK003 cK004 cK005 cK006
    cK007 cK008 cL001 cL002 cL002A cL003 cL004 cL005 cL006 cL006A cL007 cL008 cM001 cM001A cM001B
    cM002 cM003 cM003A cM004 cM005 cM006 cM007 cM008 cM009 cM010 cM010A cM011 cM012 cM012A cM012B
    cM012C cM012D cM012E cM012F cM012G cM012H cM013 cM014 cM015 cM015A cM016 cM016A cM017 cM017A
    cM018 cM019 cM020 cM021 cM022 cM022A cM023 cM024 cM024A cM025 cM026 cM027 cM028 cM028A cM029
    cM030 cM031 cM031A cM032 cM033 cM033A cM033B cM034 cM035 cM036 cM037 cM038 cM039 cM040 cM040A
    cM041 cM042 cM043 cM044 cN001 cN002 cN003 cN004 cN005 cN006 cN007 cN008 cN009 cN010 cN011 cN012
    cN013 cN014 cN015 cN016 cN017 cN018 cN018A cN018B cN019 cN020 cN021 cN022 cN023 cN024 cN025
    cN025A cN026 cN027 cN028 cN029 cN030 cN031 cN032 cN033 cN033A cN034 cN034A cN035 cN035A cN036
    cN037 cN037A cN038 cN039 cN040 cN041 cN042 cNL001 cNL002 cNL003 cNL004 cNL005 cNL005A cNL006
    cNL007 cNL008 cNL009 cNL010 cNL011 cNL012 cNL013 cNL014 cNL015 cNL016 cNL017 cNL017A cNL018
    cNL019 cNL020 cNU001 cNU002 cNU003 cNU004 cNU005 cNU006 cNU007 cNU008 cNU009 cNU010 cNU010A
    cNU011 cNU011A cNU012 cNU013 cNU014 cNU015 cNU016 cNU017 cNU018 cNU018A cNU019 cNU020 cNU021
    cNU022 cNU022A cO001 cO001A cO002 cO003 cO004 cO005 cO005A cO006 cO006A cO006B cO006C cO006D
    cO006E cO006F cO007 cO008 cO009 cO010 cO010A cO010B cO010C cO011 cO012 cO013 cO014 cO015 cO016
    cO017 cO018 cO019 cO019A cO020 cO020A cO021 cO022 cO023 cO024 cO024A cO025 cO025A cO026 cO027
    cO028 cO029 cO029A cO030 cO030A cO031 cO032 cO033 cO033A cO034 cO035 cO036 cO036A cO036B cO036C
    cO036D cO037 cO038 cO039 cO040 cO041 cO042 cO043 cO044 cO045 cO046 cO047 cO048 cO049 cO050
    cO050A cO050B cO051 cP001 cP001A cP002 cP003 cP003A cP004 cP005 cP006 cP007 cP008 cP009 cP010
    cP011 cQ001 cQ002 cQ003 cQ004 cQ005 cQ006 cQ007 cR001 cR002 cR002A cR003 cR003A cR003B cR004
    cR005 cR006 cR007 cR008 cR009 cR010 cR010A cR011 cR012 cR013 cR014 cR015 cR016 cR016A cR017
    cR018 cR019 cR020 cR021 cR022 cR023 cR024 cR025 cR026 cR027 cR028 cR029 cS001 cS002 cS002A
    cS003 cS004 cS005 cS006 cS006A cS007 cS008 cS009 cS010 cS011 cS012 cS013 cS014 cS014A cS014B
    cS015 cS016 cS017 cS017A cS018 cS019 cS020 cS021 cS022 cS023 cS024 cS025 cS026 cS026A cS026B
    cS027 cS028 cS029 cS030 cS031 cS032 cS033 cS034 cS035 cS035A cS036 cS037 cS038 cS039 cS040
    cS041 cS042 cS043 cS044 cS045 cS046 cT001 cT002 cT003 cT003A cT004 cT005 cT006 cT007 cT007A
    cT008 cT008A cT009 cT009A cT010 cT011 cT011A cT012 cT013 cT014 cT015 cT016 cT016A cT017 cT018
    cT019 cT020 cT021 cT022 cT023 cT024 cT025 cT026 cT027 cT028 cT029 cT030 cT031 cT032 cT032A
    cT033 cT033A cT034 cT035 cT036 cU001 cU002 cU003 cU004 cU005 cU006 cU006A cU006B cU007 cU008
    cU009 cU010 cU011 cU012 cU013 cU014 cU015 cU016 cU017 cU018 cU019 cU020 cU021 cU022 cU023
    cU023A cU024 cU025 cU026 cU027 cU028 cU029 cU029A cU030 cU031 cU032 cU032A cU033 cU034 cU035
    cU036 cU037 cU038 cU039 cU040 cU041 cU042 cV001 cV001A cV001B cV001C cV001D cV001E cV001F
    cV001G cV001H cV001I cV002 cV002A cV003 cV004 cV005 cV006 cV007 cV007A cV007B cV008 cV009 cV010
    cV011 cV011A cV011B cV011C cV012 cV012A cV012B cV013 cV014 cV015 cV016 cV017 cV018 cV019 cV020
    cV020A cV020B cV020C cV020D cV020E cV020F cV020G cV020H cV020I cV020J cV020K cV020L cV021 cV022
    cV023 cV023A cV024 cV025 cV026 cV027 cV028 cV028A cV029 cV029A cV030 cV030A cV031 cV031A cV032
    cV033 cV033A cV034 cV035 cV036 cV037 cV037A cV038 cV039 cV040 cV040A cW001 cW002 cW003 cW003A
    cW004 cW005 cW006 cW007 cW008 cW009 cW009A cW010 cW010A cW011 cW012 cW013 cW014 cW014A cW015
    cW016 cW017 cW017A cW018 cW018A cW019 cW020 cW021 cW022 cW023 cW024 cW024A cW025 cX001 cX002
    cX003 cX004 cX004A cX004B cX005 cX006 cX006A cX007 cX008 cX008A cY001 cY001A cY002 cY003 cY004
    cY005 cY006 cY007 cY008 cZ001 cZ002 cZ002A cZ002B cZ002C cZ002D cZ003 cZ003A cZ003B cZ004
    cZ004A cZ005 cZ005A cZ006 cZ007 cZ008 cZ009 cZ010 cZ011 cZ012 cZ013 cZ014 cZ015 cZ015A cZ015B
    cZ015C cZ015D cZ015E cZ015F cZ015G cZ015H cZ015I cZ016 cZ016A cZ016B cZ016C cZ016D cZ016E
    cZ016F cZ016G cZ016H cAA001 cAA002 cAA003 cAA004 cAA005 cAA006 cAA007 cAA007A cAA007B cAA008
    cAA009 cAA010 cAA011 cAA012 cAA013 cAA014 cAA015 cAA016 cAA017 cAA018 cAA019 cAA020 cAA021
    cAA022 cAA023 cAA024 cAA025 cAA026 cAA027 cAA028 cAA029 cAA030 cAA031 cAA032 =13430 cap_JOINER
    cau_JOINER cINSERT_AT_sg_START ehb_START esg_uc ehb_uc chq_bd cBEGIN_SEGMENT cuc_SEGMENT =14400
    aANATOLIAN_HIEROGLYPH_A001 cA002 cA003 cA004 cA005 cA006 cA007 cA008 cA009 cA010 cA010A cA011
    cA012 cA013 cA014 cA015 cA016 cA017 cA018 cA019 cA020 cA021 cA022 cA023 cA024 cA025 cA026
    cA026A cA027 cA028 cA029 cA030 cA031 cA032 cA033 cA034 cA035 cA036 cA037 cA038 cA039 cA039A
    cA040 cA041 cA041A cA042 cA043 cA044 cA045 cA045A cA046 cA046A cA046B cA047 cA048 cA049 cA050
    cA051 cA052 cA053 cA054 cA055 cA056 cA057 cA058 cA059 cA060 cA061 cA062 cA063 cA064 cA065 cA066
    cA066A cA066B cA066C cA067 cA068 cA069 cA070 cA071 cA072 cA073 cA074 cA075 cA076 cA077 cA078
    cA079 cA080 cA081 cA082 cA083 cA084 cA085 cA086 cA087 cA088 cA089 cA090 cA091 cA092 cA093 cA094
    cA095 cA096 cA097 cA097A cA098 cA098A cA099 cA100 cA100A cA101 cA101A cA102 cA102A cA103 cA104
    cA104A cA104B cA104C cA105 cA105A cA105B cA106 cA107 cA107A cA107B cA107C cA108 cA109 cA110
    cA110A cA110B cA111 cA112 cA113 cA114 cA115 cA115A cA116 cA117 cA118 cA119 cA120 cA121 cA122
    cA123 cA124 cA125 cA125A cA126 cA127 cA128 cA129 cA130 cA131 cA132 cA133 cA134 cA135 cA135A
    cA136 cA137 cA138 cA139 cA140 cA141 cA142 cA143 cA144 cA145 cA146 cA147 cA148 cA149 cA150 cA151
    cA152 cA153 cA154 cA155 cA156 cA157 cA158 cA159 cA160 cA161 cA162 cA163 cA164 cA165 cA166 cA167
    cA168 cA169 cA170 cA171 cA172 cA173 cA174 cA175 cA176 cA177 cA178 cA179 cA180 cA181 cA182 cA183
    cA184 cA185 cA186 cA187 cA188 cA189 cA190 cA191 cA192 cA193 cA194 cA195 cA196 cA197 cA198 cA199
    cA200 cA201 cA202 cA202A cA202B cA203 cA204 cA205 cA206 cA207 cA207A cA208 cA209 cA209A cA210
    cA211 cA212 cA213 cA214 cA215 cA215A cA216 cA216A cA217 cA218 cA219 cA220 cA221 cA222 cA223
    cA224 cA225 cA226 cA227 cA227A cA228 cA229 cA230 cA231 cA232 cA233 cA234 cA235 cA236 cA237
    cA238 cA239 cA240 cA241 cA242 cA243 cA244 cA245 cA246 cA247 cA248 cA249 cA250 cA251 cA252 cA253
    cA254 cA255 cA256 cA257 cA258 cA259 cA260 cA261 cA262 cA263 cA264 cA265 cA266 cA267 cA267A
    cA268 cA269 cA270 cA271 cA272 cA273 cA274 cA275 cA276 cA277 cA278 cA279 cA280 cA281 cA282 cA283
    cA284 cA285 cA286 cA287 cA288 cA289 cA289A cA290 cA291 cA292 cA293 cA294 cA294A cA295 cA296
    cA297 cA298 cA299 cA299A cA300 cA301 cA302 cA303 cA304 cA305 cA306 cA307 cA308 cA309 cA309A
    cA310 cA311 cA312 cA313 cA314 cA315 cA316 cA317 cA318 cA319 cA320 cA321 cA322 cA323 cA324 cA325
    cA326 cA327 cA328 cA329 cA329A cA330 cA331 cA332A cA332B cA332C cA333 cA334 cA335 cA336 cA336A
    cA336B cA336C cA337 cA338 cA339 cA340 cA341 cA342 cA343 cA344 cA345 cA346 cA347 cA348 cA349
    cA350 cA351 cA352 cA353 cA354 cA355 cA356 cA357 cA358 cA359 cA359A cA360 cA361 cA362 cA363
    cA364 cA364A cA365 cA366 cA367 cA368 cA368A cA369 cA370 cA371 cA371A cA372 cA373 cA374 cA375
    cA376 cA377 cA378 cA379 cA380 cA381 cA381A cA382 cA383_RA_OR_RI cA383A cA384 cA385 cA386 cA386A
    cA387 cA388 cA389 cA390 cA391 cA392 cA393_bt cA394 cA395 cA396 cA397 cA398 cA399 cA400 cA401
    cA402 cA403 cA404 cA405 cA406 cA407 cA408 cA409 cA410_BEGIN_zf_bl cA410A_uc_zf_bl cA411 cA412
    cA413 cA414 cA415 cA416 cA417 cA418 cA419 cA420 cA421 cA422 cA423 cA424 cA425 cA426 cA427 cA428
    cA429 cA430 cA431 cA432 cA433 cA434 cA435 cA436 cA437 cA438 cA439 cA440 cA441 cA442 cA443 cA444
    cA445 cA446 cA447 cA448 cA449 cA450 cA450A cA451 cA452 cA453 cA454 cA455 cA456 cA457 cA457A
    cA458 cA459 cA460 cA461 cA462 cA463 cA464 cA465 cA466 cA467 cA468 cA469 cA470 cA471 cA472 cA473
    cA474 cA475 cA476 cA477 cA478 cA479 cA480 cA481 cA482 cA483 cA484 cA485 cA486 cA487 cA488 cA489
    cA490 cA491 cA492 cA493 cA494 cA495 cA496 cA497 cA501 cA502 cA503 cA504 cA505 cA506 cA507 cA508
    cA509 cA510 cA511 cA512 cA513 cA514 cA515 cA516 cA517 cA518 cA519 cA520 cA521 cA522 cA523 cA524
    cA525 cA526 cA527 cA528 cA529 cA530 =16800 aBAMUM_ac_PHASE-A_NGKUE_MFON dGBIEE_FON
    dPON_MFON_PIPAEMGBIEE fPIPAEMBA dNAA_MFON dSHUENSHUET dTITA_MFON dNZA_MFON dSHINDA_PA_NJI
    dPON_PA_NJI_PIPAEMGBIEE gPIPAEMBA dMAEMBGBIEE dTU_MAEMBA dNGANGU dMAEMVEUX dMANSUAE dMVEUAENGAM
    dSEUNYAM dNTOQPEN dKEUKEUTNDA dNKINDI dSUU dNGKUENZEUM dLAPAQ dLET_KUT dNTAP_MFAA dMAEKEUP
    dPASHAE dGHEUAERAE dPAMSHAE dMON_NGGEUAET dNZUN_MEUT dU_YUQ_NAE dGHEUAEGHEUAE dNTAP_NTAA dSISA
    dMGBASA dMEUNJOMNDEUQ dMOOMPUQ dKAFA dPA_LEERAEWA dNDA_LEERAEWA dPET dMAEMKPEN dNIKA dPUP
    dTUAEP dLUAEP dSONJAM dTEUTEUWEN dMAENYI dKET dNDAANGGEUAET dKUOQ dMOOMEUT dSHUM dLOMMAE dFIRI
    dROM dKPOQ dSOQ dMAP_PIEET dSHIRAE dNTAP dSHOQ_NSHUT_YUM dNYIT_MONGKEUAEQ dPAARAE dNKAARAE
    dUNKNOWN dNGGEN dMAESI dNJAM dMBANYI dNYET dTEUAEN dSOT dPAAM dNSHIEE dMAEM dNYI dKAQ dNSHA
    dVEE dLU dNEN dNAQ dMBAQ cPHASE-B_NSHUET dTU_MAEMGBIEE dSIEE dSET_TU dLOM_NTEUM dMBA_MAELEE
    dKIEEM dYEURAE dMBAARAE dKAM dPEESHI dYAFU_LEERAEWA dud_NSHUT_NYAM dNTIEE_SHEUOQ dNDU_NJAA
    dGHEUGHEUAEM dPIT dTU_NSIEE dSHET_NJAQ dSHEUAEQTU dMFON_TEUAEQ dMBIT_MBAAKET dNYI_NTEUM dKEUPUQ
    dGHEUGHEN dKEUYEUX dLAANAE dPARUM dVEUM dNGKINDI_MVOP dNGGEU_MBU dWUAET dSAKEUAE dTAAM dMEUQ
    dNGGUOQ eeh dMFIYAQ dSUE dMBEURI dMONTIEEN dNYAEMAE dPUNGAAM dMEUT_NGGEET dFEUX dMBUOQ dFEE
    dKEUAEM dMA_NJEUAENA eNJUQA dLET dNGGAAM dNSEN dMA dKIQ dNGOM cPHASE-C_NGKUE_MAEMBA dNZA dYUM
    dWANGKUOQ dNGGEN dNDEUAEREE dNGKAQ dGHARAE dMBEEKEET dGBAYI dNYIR_MKPARAQ_MEUN dNTU_MBIT dMBEUM
    dPIRIEEN dNDOMBU dMBAA_CABBAGE-TREE dKEUSHEUAEP dGHAP dKEUKAQ dYU_MUOMAE dNZEUM dMBUE dNSEUAEN
    dMBIT dYEUQ dKPARAQ dKAA dSEUX dNDIDA dTAASHAE dNJUEQ dTITA_YUE dSUAET dNGGUAEN_NYAM dVEUX
    dNANSANAQ dMA_KEUAERI dNTAA dNGGUON dLAP dMBIRIEEN dMGBASAQ dNTEUNGBA dTEUTEUX dNGGUM dFUE
    dNDEUT dNSA dNSHAQ dBUNG dVEUAEPEN dMBERAE dRU dNJAEM dud dTITUAEP dNSUOT_NGOM dNJEEEE dKET
    dNGGU dMAESI dMBUAEM dLU dKUT dNJAM dNGOM dWUP dNGGUEET dNSOM dNTEN dKUOP_NKAARAE dNSUN dNDAM
    dMA_NSIEE dYAA dNDAP dSHUEQ dSETFON dMBI dMAEMBA dMBANYI dKEUSEUX dMBEUX dKEUM dMBAA_PICKET
    dYUWOQ dNJEUX dMIEE dMUAE dSHIQ dKEN_LAW eFATIGUE dNGAQ dNAQ dLIQ dPIN dPEN dTET cPHASE-D_MBUO
    dWAP dNJI dMFON dNJIEE dLIEE dNJEUT dNSHEE dNGGAAMAE dNYAM dWUAEN dNGKUN dSHEE dNGKAP
    dKEUAETMEUN dTEUT dSHEUAE dNJAP dSUE dKET dYAEMMAE dKUOM dSAP dMFEUT dNDEUX dMALEERI dMEUT
    dSEUAEQ dYEN dNJEUAEM dKEUOT_MBUAE dNGKEURI dTU dGHAA dNGKYEE dFEUFEUAET dNDEE dMGBOFUM dLEUAEP
    dNDON dMONI dMGBEUN dPUUT dMGBIEE dMFO dLUM dNSIEEP dMBAA dKWAET dNYET dTEUAEN dSOT dYUWOQ
    dKEUM dRAEM dTEEEE dNGKEUAEQ dMFEUAE dNSIEET dKEUP dPIP dPEUTAE dNYUE dLET dNGGAAM dMFIEE
    dNGGWAEN dYUOM dPAP dYUOP dNDAM dNTEUM dSUAE dKUN dNGGEUX dNGKIEE dTUOT dMEUN dKUQ dNSUM dTEUN
    dMAENJET dNGGAP dLEUM dNGGUOM dNSHUT dNJUEQ dGHEUAE dKU dREN_ol dTAE dTOQ dNYI dRII dLEEEE
    dMEEEE dM dSUU dMU dSHII dSHEUX dKYEE dNU dSHU dNTEE dPEE dNI dSHOQ dPUQ dMVOP dLOQ dREN_MUCH
    dTI dNTUU dMBAA_bx dSAQ dFAA cPHASE-E_NDAP dTOON dMBEUM dLAP dVOM dLOON dPAA dSOM dRAQ dNSHUOP
    dNDUN dPUAE dTAM dNGKA dKPEUX dWUO dSEE dNGGEUAET dPAAM dTOO dKUOP dLOM dNSHIEE dNGOP dMAEM
    dNGKEUX dNGOQ dNSHUE dRIMGBA dNJEUX dPEEM dSAA dNGGURAE dMGBA dGHEUX dNGKEUAEM dNJAEMLI dMAP
    dLOOT dNGGEEEE dNDIQ dTAEN_NTEUM dSET dPUM dNDAA_SOFTNESS dNGGUAESHAE_NYAM dYIEE dGHEUN dTUAE
    dYEUAE dPO dTUMAE dKEUAE dSUAEN dTEUAEQ dVEUAE dWEUX dLAAM dPU dTAAQ dGHAAMAE dNGEUREUT
    dSHEUAEQ dMGBEN dMBEE dNZAQ dNKOM dGBET dTUM dKUET dYAP dNYI_CLEAVER dYIT dMFEUQ dNDIAQ dPIEEQ
    dYUEQ dLEUAEM dFUE dGBEUX dNGKUP dKET dMAE dNGKAAMI dGHET dFA dNTUM dPEUT dYEUM dNGGEUAE
    dNYI_js dNZUQ dPOON dMIEE dFUET dNAE dMUAE dGHEUAE dFU_I dMVI dPUAQ dNGKUM dKUT dPIET dNTAP
    dYEUAET dNGGUP dPA_PEOPLE dFU_CALL dFOM dNJEE dA dTOQ dO dI dLAQ dPA_PLURAL dTAA dTAQ
    dNDAA_MY_HOUSE dSHIQ dYEUX dNGUAE dYUAEN dYOQ_SWIMMING eCOVER dYUQ dYUN dKEUX dPEUX dNJEE_EPOCH
    dPUE dWUE dFEE dVEE dLU dMI dREUX dRAE dNGUAET dkt dSHO dSHOQ dFU_REMEDY dNA dPI dLOQ dKO dMEN
    dMA dMAQ dTEU dKI dMON dkc dFAQ dGHOM cPHASE-F_KA dU dKU dEE dREE dTAE dNYI dLA dRII dRIEE
    dMEEEE dTAA dNDAA dNJAEM dM dSUU dSHII dSI dSEUX dKYEE dKET dNUAE dNU dNJUAE dYOQ dSHU dYA
    dNSHA dPEUX dNTEE dWUE dPEE dRU dNI dREUX dKEN dNGKWAEN dNGGA dSHO dPUAE dFOM dWA dLI dLOQ dKO
    dMBEN dREN dMA dMO dMBAA dTET dKPA dSAMBA dVUEQ =16A40 aMRO_ac_TA cNGI cYO cMIM cBA cDA cA cPHI
    cKHAI cHAO cDAI cCHU cKEAAE cOL cMAEM cNIN cPA cOO cO cRO cSHI cTHEA cEA cWA cE cKO cLAN cLA
    cHAI cRI cTEK =16A60 bct_fb ccu ccn cay cbv cca cga cbx cbt cdo =16A6E bjh ban_jh aTANGSA_ac_OZ
    cOC cOQ cOX cAZ cAC cAQ cAX cVZ cVC cVQ cVX cEZ cEC cEQ cEX cIZ cIC cIQ cIX cUZ cUC cUQ cUX
    cAWZ cAWC cAWQ cAWX cUIZ cUIC cUIQ cUIX cat_NG cfm_UEX cfw_UEZ dAWX cUEC cUEZ cUEQ cUEX cUIUZ
    cUIUC cUIUQ cUIUX cMZ cMC cMQ cMX cKA clu cGA ckt cSA cYA cWA cPA clp coa cBA cMA cNA cHA cLA
    cHTA cTA cDA cRA cNHA ckx cCA czy cpm cHTTA cml cXA cFA cpt clm cZA =16AC0 bct_fb ccu ccn cay
    cbv cca cga cbx cbt cdo =16AD0 aBASSA_VAH_ac_ENNI dKA dSE dFA dMBE dYIE dGAH dDHII dKPAH dJO
    dHWAH dWA dZO dGBU dDO dCE dUWU dTO dBA dVU dYEIN dPA dWADDA dA dO dOO dU dEE dE dI =16AF0
    cdl_fy_fq diy_fq dMID_fq dLOW-MID_fq dHIGH-LOW_fq cii_gg =16B00 aPAHAWH_HMONG_cp_KEEB dKEEV
    dKIB dKIV dKAUB dKAUV dKUB dKUV dKEB dKEV dKAIB dKAIV dKOOB dKOOV dKAWB dKAWV dKUAB dKUAV dKOB
    dKOV dKIAB dKIAV dKAB dKAV dKWB dKWV dKAAB dKAAV cfs_VAU dNTSAU dLAU dHAU dNLAU dRAU dNKAU
    dQHAU dYAU dHLAU dMAU dCHAU dNCHAU dHNAU dPLHAU dNTHAU dNAU dAU dXAU dCAU cbl_CIM_TUB eSO eKES
    eKHAV eSUAM eHOM eTAUM cam_VOS_THOM eTSHAB_CEEB dCIM_CHEEM dVOS_THIAB eFEEM dXYEEM_NTXIV eRHO
    eTOV eFAIB dVOS_SEEV dMEEJ_SUAB dVOS_NRUA dIB_YAM dXAUS dCIM_TSOV_ROG =16B50 cct_fb dcu dcn day
    dbv dca dga dbx dbt ddo =16B5B cds_TENS dHUNDREDS dkc_nq dsb dbb_sb dkc_BILLIONS dTRILLIONS
    =16B63 cam_VOS_LUB dXYOO dHLI dTHIRD-STAGE_HLI dZWJ_THAJ dHNUB dNQIG dXIAB dNTUJ dAV
    dTXHEEJ_CEEV dMEEJ_TSEEB dTAU dLOS dMUS dCIM_HAIS_LUS_NTOG_NTOG eCUAM_TSHOOJ eTXWV fCHWV
    ePUB_DAWB eNRES_TOS =16B7D cCLAN_am_TSHEEJ eYEEG eLIS eLAUJ eXYOOJ eKOO eHAWJ eMUAS eTHOJ eTSAB
    ePHAB eKHAB eHAM eVAJ eFAJ eYAJ eTSWB eKWM eVWJ =16E40 aMEDEFAIDRIN_ae_ac_M dS dV dW dATIU dZ
    dKP dP dT dG dF dI dK dA dJ dE dB dC dU dYU dL dQ dHP dNY dX dD dOE dN dR dO dAI dY baf_ac_M dS
    dV dW dATIU dZ dKP dP dT dG dF dI dK dA dJ dE dB dC dU dYU dL dQ dHP dNY dX dD dOE dN dR dO dAI
    dY bct_fb ccu ccn cay cbv cca cga cbx cbt cdo bds_kc cpw cns cqt cqa cny cph cno coe cqh
    bct_cu_fr_ah ccn_fr_ah cay_fr_ah bew bii_gg baw_AIVA bdy_OH =16F00 aMIAO_ac_PA cBA cYI_PA cPLA
    cMA cMHA cjb_MA cFA cVA cVFA cTA cDA cYI_pj dTA cpj cpl cNA cNHA cYI_re cjb_NA cre cNNHA cLA
    cLYA cLHA cLHYA cTLHA cDLHA cTLHYA cDLHYA cKA cGA cYI_KA cQA cQGA ckt cNGHA cjb_kt cHA cXA cpm
    cGHHA cTSSA cDZZA clp cNYHA czz cDZHA cYI_zz dDZHA cREFORMED_zz ckx csj cZHA cZSHA czy cDZA
    cYI_zy cSA cZA cZSA cZZA cZZSA cjb_ZZA cZZYA cZZSYA cWA cAH cHHA cBRI cSYI cDZYI cTE cTSE cRTE
    =16F4F bam_fs_ez_gh bac_zi bam_ASPIRATION cREFORMED_VOICING dASPIRATION bcp_am_A dAA dAHH dAN
    dANG dO dOO dWO dW dE dEN dENG dOEY dI dIA dIAN dIANG dIO dIE dII dIU dING dU dUA dUAN dUANG
    dUU dUEI dUNG dY dYI dAE dAEE dERR dpg_ERR dER dpg_ER dAI dEI dAU dOU dN dNG dUOG dYUI dOG dOER
    dVW dIG dEA dIONG dUI =16F8F bfq_ak csg_ak cal cas bac_tm cvs cTONE-4 ctn cTONE-6 cTONE-7
    cTONE-8 cREFORMED_TONE-1 dtm dTONE-4 dtn dTONE-6 dTONE-8 =16FE0 aTANGUT_lg_bl aNUSHU_lg_bl
    aol_CHINESE_by_bl clg_bl aKHITAN_af_io_up =16FF0 aVIETNAMESE_fr_READING_bl_CA eNHAY =18800
    aTANGUT_COMPONENT-001 bCOMPONENT-002 bCOMPONENT-003 bCOMPONENT-004 bCOMPONENT-005
    bCOMPONENT-006 bCOMPONENT-007 bCOMPONENT-008 bCOMPONENT-009 bCOMPONENT-010 bCOMPONENT-011
    bCOMPONENT-012 bCOMPONENT-013 bCOMPONENT-014 bCOMPONENT-015 bCOMPONENT-016 bCOMPONENT-017
    bCOMPONENT-018 bCOMPONENT-019 bCOMPONENT-020 bCOMPONENT-021 bCOMPONENT-022 bCOMPONENT-023
    bCOMPONENT-024 bCOMPONENT-025 bCOMPONENT-026 bCOMPONENT-027 bCOMPONENT-028 bCOMPONENT-029
    bCOMPONENT-030 bCOMPONENT-031 bCOMPONENT-032 bCOMPONENT-033 bCOMPONENT-034 bCOMPONENT-035
    bCOMPONENT-036 bCOMPONENT-037 bCOMPONENT-038 bCOMPONENT-039 bCOMPONENT-040 bCOMPONENT-041
    bCOMPONENT-042 bCOMPONENT-043 bCOMPONENT-044 bCOMPONENT-045 bCOMPONENT-046 bCOMPONENT-047
    bCOMPONENT-048 bCOMPONENT-049 bCOMPONENT-050 bCOMPONENT-051 bCOMPONENT-052 bCOMPONENT-053
    bCOMPONENT-054 bCOMPONENT-055 bCOMPONENT-056 bCOMPONENT-057 bCOMPONENT-058 bCOMPONENT-059
    bCOMPONENT-060 bCOMPONENT-061 bCOMPONENT-062 bCOMPONENT-063 bCOMPONENT-064 bCOMPONENT-065
    bCOMPONENT-066 bCOMPONENT-067 bCOMPONENT-068 bCOMPONENT-069 bCOMPONENT-070 bCOMPONENT-071
    bCOMPONENT-072 bCOMPONENT-073 bCOMPONENT-074 bCOMPONENT-075 bCOMPONENT-076 bCOMPONENT-077
    bCOMPONENT-078 bCOMPONENT-079 bCOMPONENT-080 bCOMPONENT-081 bCOMPONENT-082 bCOMPONENT-083
    bCOMPONENT-084 bCOMPONENT-085 bCOMPONENT-086 bCOMPONENT-087 bCOMPONENT-088 bCOMPONENT-089
    bCOMPONENT-090 bCOMPONENT-091 bCOMPONENT-092 bCOMPONENT-093 bCOMPONENT-094 bCOMPONENT-095
    bCOMPONENT-096 bCOMPONENT-097 bCOMPONENT-098 bCOMPONENT-099 bCOMPONENT-100 bCOMPONENT-101
    bCOMPONENT-102 bCOMPONENT-103 bCOMPONENT-104 bCOMPONENT-105 bCOMPONENT-106 bCOMPONENT-107
    bCOMPONENT-108 bCOMPONENT-109 bCOMPONENT-110 bCOMPONENT-111 bCOMPONENT-112 bCOMPONENT-113
    bCOMPONENT-114 bCOMPONENT-115 bCOMPONENT-116 bCOMPONENT-117 bCOMPONENT-118 bCOMPONENT-119
    bCOMPONENT-120 bCOMPONENT-121 bCOMPONENT-122 bCOMPONENT-123 bCOMPONENT-124 bCOMPONENT-125
    bCOMPONENT-126 bCOMPONENT-127 bCOMPONENT-128 bCOMPONENT-129 bCOMPONENT-130 bCOMPONENT-131
    bCOMPONENT-132 bCOMPONENT-133 bCOMPONENT-134 bCOMPONENT-135 bCOMPONENT-136 bCOMPONENT-137
    bCOMPONENT-138 bCOMPONENT-139 bCOMPONENT-140 bCOMPONENT-141 bCOMPONENT-142 bCOMPONENT-143
    bCOMPONENT-144 bCOMPONENT-145 bCOMPONENT-146 bCOMPONENT-147 bCOMPONENT-148 bCOMPONENT-149
    bCOMPONENT-150 bCOMPONENT-151 bCOMPONENT-152 bCOMPONENT-153 bCOMPONENT-154 bCOMPONENT-155
    bCOMPONENT-156 bCOMPONENT-157 bCOMPONENT-158 bCOMPONENT-159 bCOMPONENT-160 bCOMPONENT-161
    bCOMPONENT-162 bCOMPONENT-163 bCOMPONENT-164 bCOMPONENT-165 bCOMPONENT-166 bCOMPONENT-167
    bCOMPONENT-168 bCOMPONENT-169 bCOMPONENT-170 bCOMPONENT-171 bCOMPONENT-172 bCOMPONENT-173
    bCOMPONENT-174 bCOMPONENT-175 bCOMPONENT-176 bCOMPONENT-177 bCOMPONENT-178 bCOMPONENT-179
    bCOMPONENT-180 bCOMPONENT-181 bCOMPONENT-182 bCOMPONENT-183 bCOMPONENT-184 bCOMPONENT-185
    bCOMPONENT-186 bCOMPONENT-187 bCOMPONENT-188 bCOMPONENT-189 bCOMPONENT-190 bCOMPONENT-191
    bCOMPONENT-192 bCOMPONENT-193 bCOMPONENT-194 bCOMPONENT-195 bCOMPONENT-196 bCOMPONENT-197
    bCOMPONENT-198 bCOMPONENT-199 bCOMPONENT-200 bCOMPONENT-201 bCOMPONENT-202 bCOMPONENT-203
    bCOMPONENT-204 bCOMPONENT-205 bCOMPONENT-206 bCOMPONENT-207 bCOMPONENT-208 bCOMPONENT-209
    bCOMPONENT-210 bCOMPONENT-211 bCOMPONENT-212 bCOMPONENT-213 bCOMPONENT-214 bCOMPONENT-215
    bCOMPONENT-216 bCOMPONENT-217 bCOMPONENT-218 bCOMPONENT-219 bCOMPONENT-220 bCOMPONENT-221
    bCOMPONENT-222 bCOMPONENT-223 bCOMPONENT-224 bCOMPONENT-225 bCOMPONENT-226 bCOMPONENT-227
    bCOMPONENT-228 bCOMPONENT-229 bCOMPONENT-230 bCOMPONENT-231 bCOMPONENT-232 bCOMPONENT-233
    bCOMPONENT-234 bCOMPONENT-235 bCOMPONENT-236 bCOMPONENT-237 bCOMPONENT-238 bCOMPONENT-239
    bCOMPONENT-240 bCOMPONENT-241 bCOMPONENT-242 bCOMPONENT-243 bCOMPONENT-244 bCOMPONENT-245
    bCOMPONENT-246 bCOMPONENT-247 bCOMPONENT-248 bCOMPONENT-249 bCOMPONENT-250 bCOMPONENT-251
    bCOMPONENT-252 bCOMPONENT-253 bCOMPONENT-254 bCOMPONENT-255 bCOMPONENT-256 bCOMPONENT-257
    bCOMPONENT-258 bCOMPONENT-259 bCOMPONENT-260 bCOMPONENT-261 bCOMPONENT-262 bCOMPONENT-263
    bCOMPONENT-264 bCOMPONENT-265 bCOMPONENT-266 bCOMPONENT-267 bCOMPONENT-268 bCOMPONENT-269
    bCOMPONENT-270 bCOMPONENT-271 bCOMPONENT-272 bCOMPONENT-273 bCOMPONENT-274 bCOMPONENT-275
    bCOMPONENT-276 bCOMPONENT-277 bCOMPONENT-278 bCOMPONENT-279 bCOMPONENT-280 bCOMPONENT-281
    bCOMPONENT-282 bCOMPONENT-283 bCOMPONENT-284 bCOMPONENT-285 bCOMPONENT-286 bCOMPONENT-287
    bCOMPONENT-288 bCOMPONENT-289 bCOMPONENT-290 bCOMPONENT-291 bCOMPONENT-292 bCOMPONENT-293
    bCOMPONENT-294 bCOMPONENT-295 bCOMPONENT-296 bCOMPONENT-297 bCOMPONENT-298 bCOMPONENT-299
    bCOMPONENT-300 bCOMPONENT-301 bCOMPONENT-302 bCOMPONENT-303 bCOMPONENT-304 bCOMPONENT-305
    bCOMPONENT-306 bCOMPONENT-307 bCOMPONENT-308 bCOMPONENT-309 bCOMPONENT-310 bCOMPONENT-311
    bCOMPONENT-312 bCOMPONENT-313 bCOMPONENT-314 bCOMPONENT-315 bCOMPONENT-316 bCOMPONENT-317
    bCOMPONENT-318 bCOMPONENT-319 bCOMPONENT-320 bCOMPONENT-321 bCOMPONENT-322 bCOMPONENT-323
    bCOMPONENT-324 bCOMPONENT-325 bCOMPONENT-326 bCOMPONENT-327 bCOMPONENT-328 bCOMPONENT-329
    bCOMPONENT-330 bCOMPONENT-331 bCOMPONENT-332 bCOMPONENT-333 bCOMPONENT-334 bCOMPONENT-335
    bCOMPONENT-336 bCOMPONENT-337 bCOMPONENT-338 bCOMPONENT-339 bCOMPONENT-340 bCOMPONENT-341
    bCOMPONENT-342 bCOMPONENT-343 bCOMPONENT-344 bCOMPONENT-345 bCOMPONENT-346 bCOMPONENT-347
    bCOMPONENT-348 bCOMPONENT-349 bCOMPONENT-350 bCOMPONENT-351 bCOMPONENT-352 bCOMPONENT-353
    bCOMPONENT-354 bCOMPONENT-355 bCOMPONENT-356 bCOMPONENT-357 bCOMPONENT-358 bCOMPONENT-359
    bCOMPONENT-360 bCOMPONENT-361 bCOMPONENT-362 bCOMPONENT-363 bCOMPONENT-364 bCOMPONENT-365
    bCOMPONENT-366 bCOMPONENT-367 bCOMPONENT-368 bCOMPONENT-369 bCOMPONENT-370 bCOMPONENT-371
    bCOMPONENT-372 bCOMPONENT-373 bCOMPONENT-374 bCOMPONENT-375 bCOMPONENT-376 bCOMPONENT-377
    bCOMPONENT-378 bCOMPONENT-379 bCOMPONENT-380 bCOMPONENT-381 bCOMPONENT-382 bCOMPONENT-383
    bCOMPONENT-384 bCOMPONENT-385 bCOMPONENT-386 bCOMPONENT-387 bCOMPONENT-388 bCOMPONENT-389
    bCOMPONENT-390 bCOMPONENT-391 bCOMPONENT-392 bCOMPONENT-393 bCOMPONENT-394 bCOMPONENT-395
    bCOMPONENT-396 bCOMPONENT-397 bCOMPONENT-398 bCOMPONENT-399 bCOMPONENT-400 bCOMPONENT-401
    bCOMPONENT-402 bCOMPONENT-403 bCOMPONENT-404 bCOMPONENT-405 bCOMPONENT-406 bCOMPONENT-407
    bCOMPONENT-408 bCOMPONENT-409 bCOMPONENT-410 bCOMPONENT-411 bCOMPONENT-412 bCOMPONENT-413
    bCOMPONENT-414 bCOMPONENT-415 bCOMPONENT-416 bCOMPONENT-417 bCOMPONENT-418 bCOMPONENT-419
    bCOMPONENT-420 bCOMPONENT-421 bCOMPONENT-422 bCOMPONENT-423 bCOMPONENT-424 bCOMPONENT-425
    bCOMPONENT-426 bCOMPONENT-427 bCOMPONENT-428 bCOMPONENT-429 bCOMPONENT-430 bCOMPONENT-431
    bCOMPONENT-432 bCOMPONENT-433 bCOMPONENT-434 bCOMPONENT-435 bCOMPONENT-436 bCOMPONENT-437
    bCOMPONENT-438 bCOMPONENT-439 bCOMPONENT-440 bCOMPONENT-441 bCOMPONENT-442 bCOMPONENT-443
    bCOMPONENT-444 bCOMPONENT-445 bCOMPONENT-446 bCOMPONENT-447 bCOMPONENT-448 bCOMPONENT-449
    bCOMPONENT-450 bCOMPONENT-451 bCOMPONENT-452 bCOMPONENT-453 bCOMPONENT-454 bCOMPONENT-455
    bCOMPONENT-456 bCOMPONENT-457 bCOMPONENT-458 bCOMPONENT-459 bCOMPONENT-460 bCOMPONENT-461
    bCOMPONENT-462 bCOMPONENT-463 bCOMPONENT-464 bCOMPONENT-465 bCOMPONENT-466 bCOMPONENT-467
    bCOMPONENT-468 bCOMPONENT-469 bCOMPONENT-470 bCOMPONENT-471 bCOMPONENT-472 bCOMPONENT-473
    bCOMPONENT-474 bCOMPONENT-475 bCOMPONENT-476 bCOMPONENT-477 bCOMPONENT-478 bCOMPONENT-479
    bCOMPONENT-480 bCOMPONENT-481 bCOMPONENT-482 bCOMPONENT-483 bCOMPONENT-484 bCOMPONENT-485
    bCOMPONENT-486 bCOMPONENT-487 bCOMPONENT-488 bCOMPONENT-489 bCOMPONENT-490 bCOMPONENT-491
    bCOMPONENT-492 bCOMPONENT-493 bCOMPONENT-494 bCOMPONENT-495 bCOMPONENT-496 bCOMPONENT-497
    bCOMPONENT-498 bCOMPONENT-499 bCOMPONENT-500 bCOMPONENT-501 bCOMPONENT-502 bCOMPONENT-503
    bCOMPONENT-504 bCOMPONENT-505 bCOMPONENT-506 bCOMPONENT-507 bCOMPONENT-508 bCOMPONENT-509
    bCOMPONENT-510 bCOMPONENT-511 bCOMPONENT-512 bCOMPONENT-513 bCOMPONENT-514 bCOMPONENT-515
    bCOMPONENT-516 bCOMPONENT-517 bCOMPONENT-518 bCOMPONENT-519 bCOMPONENT-520 bCOMPONENT-521
    bCOMPONENT-522 bCOMPONENT-523 bCOMPONENT-524 bCOMPONENT-525 bCOMPONENT-526 bCOMPONENT-527
    bCOMPONENT-528 bCOMPONENT-529 bCOMPONENT-530 bCOMPONENT-531 bCOMPONENT-532 bCOMPONENT-533
    bCOMPONENT-534 bCOMPONENT-535 bCOMPONENT-536 bCOMPONENT-537 bCOMPONENT-538 bCOMPONENT-539
    bCOMPONENT-540 bCOMPONENT-541 bCOMPONENT-542 bCOMPONENT-543 bCOMPONENT-544 bCOMPONENT-545
    bCOMPONENT-546 bCOMPONENT-547 bCOMPONENT-548 bCOMPONENT-549 bCOMPONENT-550 bCOMPONENT-551
    bCOMPONENT-552 bCOMPONENT-553 bCOMPONENT-554 bCOMPONENT-555 bCOMPONENT-556 bCOMPONENT-557
    bCOMPONENT-558 bCOMPONENT-559 bCOMPONENT-560 bCOMPONENT-561 bCOMPONENT-562 bCOMPONENT-563
    bCOMPONENT-564 bCOMPONENT-565 bCOMPONENT-566 bCOMPONENT-567 bCOMPONENT-568 bCOMPONENT-569
    bCOMPONENT-570 bCOMPONENT-571 bCOMPONENT-572 bCOMPONENT-573 bCOMPONENT-574 bCOMPONENT-575
    bCOMPONENT-576 bCOMPONENT-577 bCOMPONENT-578 bCOMPONENT-579 bCOMPONENT-580 bCOMPONENT-581
    bCOMPONENT-582 bCOMPONENT-583 bCOMPONENT-584 bCOMPONENT-585 bCOMPONENT-586 bCOMPONENT-587
    bCOMPONENT-588 bCOMPONENT-589 bCOMPONENT-590 bCOMPONENT-591 bCOMPONENT-592 bCOMPONENT-593
    bCOMPONENT-594 bCOMPONENT-595 bCOMPONENT-596 bCOMPONENT-597 bCOMPONENT-598 bCOMPONENT-599
    bCOMPONENT-600 bCOMPONENT-601 bCOMPONENT-602 bCOMPONENT-603 bCOMPONENT-604 bCOMPONENT-605
    bCOMPONENT-606 bCOMPONENT-607 bCOMPONENT-608 bCOMPONENT-609 bCOMPONENT-610 bCOMPONENT-611
    bCOMPONENT-612 bCOMPONENT-613 bCOMPONENT-614 bCOMPONENT-615 bCOMPONENT-616 bCOMPONENT-617
    bCOMPONENT-618 bCOMPONENT-619 bCOMPONENT-620 bCOMPONENT-621 bCOMPONENT-622 bCOMPONENT-623
    bCOMPONENT-624 bCOMPONENT-625 bCOMPONENT-626 bCOMPONENT-627 bCOMPONENT-628 bCOMPONENT-629
    bCOMPONENT-630 bCOMPONENT-631 bCOMPONENT-632 bCOMPONENT-633 bCOMPONENT-634 bCOMPONENT-635
    bCOMPONENT-636 bCOMPONENT-637 bCOMPONENT-638 bCOMPONENT-639 bCOMPONENT-640 bCOMPONENT-641
    bCOMPONENT-642 bCOMPONENT-643 bCOMPONENT-644 bCOMPONENT-645 bCOMPONENT-646 bCOMPONENT-647
    bCOMPONENT-648 bCOMPONENT-649 bCOMPONENT-650 bCOMPONENT-651 bCOMPONENT-652 bCOMPONENT-653
    bCOMPONENT-654 bCOMPONENT-655 bCOMPONENT-656 bCOMPONENT-657 bCOMPONENT-658 bCOMPONENT-659
    bCOMPONENT-660 bCOMPONENT-661 bCOMPONENT-662 bCOMPONENT-663 bCOMPONENT-664 bCOMPONENT-665
    bCOMPONENT-666 bCOMPONENT-667 bCOMPONENT-668 bCOMPONENT-669 bCOMPONENT-670 bCOMPONENT-671
    bCOMPONENT-672 bCOMPONENT-673 bCOMPONENT-674 bCOMPONENT-675 bCOMPONENT-676 bCOMPONENT-677
    bCOMPONENT-678 bCOMPONENT-679 bCOMPONENT-680 bCOMPONENT-681 bCOMPONENT-682 bCOMPONENT-683
    bCOMPONENT-684 bCOMPONENT-685 bCOMPONENT-686 bCOMPONENT-687 bCOMPONENT-688 bCOMPONENT-689
    bCOMPONENT-690 bCOMPONENT-691 bCOMPONENT-692 bCOMPONENT-693 bCOMPONENT-694 bCOMPONENT-695
    bCOMPONENT-696 bCOMPONENT-697 bCOMPONENT-698 bCOMPONENT-699 bCOMPONENT-700 bCOMPONENT-701
    bCOMPONENT-702 bCOMPONENT-703 bCOMPONENT-704 bCOMPONENT-705 bCOMPONENT-706 bCOMPONENT-707
    bCOMPONENT-708 bCOMPONENT-709 bCOMPONENT-710 bCOMPONENT-711 bCOMPONENT-712 bCOMPONENT-713
    bCOMPONENT-714 bCOMPONENT-715 bCOMPONENT-716 bCOMPONENT-717 bCOMPONENT-718 bCOMPONENT-719
    bCOMPONENT-720 bCOMPONENT-721 bCOMPONENT-722 bCOMPONENT-723 bCOMPONENT-724 bCOMPONENT-725
    bCOMPONENT-726 bCOMPONENT-727 bCOMPONENT-728 bCOMPONENT-729 bCOMPONENT-730 bCOMPONENT-731
    bCOMPONENT-732 bCOMPONENT-733 bCOMPONENT-734 bCOMPONENT-735 bCOMPONENT-736 bCOMPONENT-737
    bCOMPONENT-738 bCOMPONENT-739 bCOMPONENT-740 bCOMPONENT-741 bCOMPONENT-742 bCOMPONENT-743
    bCOMPONENT-744 bCOMPONENT-745 bCOMPONENT-746 bCOMPONENT-747 bCOMPONENT-748 bCOMPONENT-749
    bCOMPONENT-750 bCOMPONENT-751 bCOMPONENT-752 bCOMPONENT-753 bCOMPONENT-754 bCOMPONENT-755
    bCOMPONENT-756 bCOMPONENT-757 bCOMPONENT-758 bCOMPONENT-759 bCOMPONENT-760 bCOMPONENT-761
    bCOMPONENT-762 bCOMPONENT-763 bCOMPONENT-764 bCOMPONENT-765 bCOMPONENT-766 bCOMPONENT-767
    bCOMPONENT-768 aKHITAN_af_io_ab dab dab dab dab dab dab dab dab dab dab dab dab dab dab dab dab
    dab dab dab dab dab dab dab dab dab dab dab dab dab dab dab dab dab dab dab dab dab dab dab dab
    dab dab dab dab dab dab dab dab dab dab dab dab dab dab dab dab dab dab dab dab dab dab dab dab
    dab dab dab dab dab dab dab dab dab dab dab dab dab dab dab dab dab dab dab dab dab dab dab dab
    dab dab dab dab dab dab dab dab dab dab dab dab dab dab dab dab dab dab dab dab dab dab dab dab
    dab dab dab dab dab dab dab dab dab dab dab dab dab dab dab dab dab dab dab dab dab dab dab dab
    dab dab dab dab dab dab dab dab dab dab dab dab dab dab dab dab dab dab dab dab dab dab dab dab
    dab dab dab dab dab dab dab dab dab dab dab dab dab dab dab dab dab dab dab dab dab dab dab dab
    dab dab dab dab dab dab dab dab dab dab dab dab dab dab dab dab dab dab dab dab dab dab dab dab
    dab dab dab dab dab dab dab dab dab dab dab dab dab dab dab dab dab dab dab dab dab dab dab dab
    dab dab dab dab dab dab dab dab dab dab dab dab dab dab dab dab dab dab dab dab dab dab dab dab
    dab dab dab dab dab dab dab dab dab dab dab dab dab dab dab dab dab dab dab dab dab dab dab dab
    dab dab dab dab dab dab dab dab dab dab dab dab dab dab dab dab dab dab dab dab dab dab dab dab
    dab dab dab dab dab dab dab dab dab dab dab dab dab dab dab dab dab dab dab dab dab dab dab dab
    dab dab dab dab dab dab dab dab dab dab dab dab dab dab dab dab dab dab dab dab dab dab dab dab
    dab dab dab dab dab dab dab dab dab dab dab dab dab dab dab dab dab dab dab dab dab dab dab dab
    dab dab dab dab dab dab dab dab dab dab dab dab dab dab dab dab dab dab dab dab dab dab dab dab
    dab dab dab dab dab dab dab dab dab dab dab dab dab dab dab dab dab dab dab dab dab dab dab dab
    dab dab dab dab dab dab dab dab dab dab dab dab dab dab dab dab dab dab dab dab dab dab dab dab
    dab dab dab dab dab dab dab dab dab dab dab dab dab dab dab dab dab dab dab dab dab =1AFF0
    alo_ac_MINNAN_tm dvs dTONE-4 dtn =1AFF5 dTONE-7 dTONE-8 dNASALIZED_TONE-1 etm evs eTONE-4 etn
    =1AFFD eTONE-7 eTONE-8 =1B000 cjb_E aut_ac_jb_YE aHENTAIGANA_ac_A-1 cA-2 cA-3 cA-WO cI-1 cI-2
    cI-3 cI-4 cU-1 cU-2 cU-3 cU-4 cU-5 cE-2 cE-3 cE-4 cE-5 cE-6 cO-1 cO-2 cO-3 cKA-1 cKA-2 cKA-3
    cKA-4 cKA-5 cKA-6 cKA-7 cKA-8 cKA-9 cKA-10 cKA-11 cKA-KE cKI-1 cKI-2 cKI-3 cKI-4 cKI-5 cKI-6
    cKI-7 cKI-8 cKU-1 cKU-2 cKU-3 cKU-4 cKU-5 cKU-6 cKU-7 cKE-1 cKE-2 cKE-3 cKE-4 cKE-5 cKE-6 cKO-1
    cKO-2 cKO-3 cKO-KI cSA-1 cSA-2 cSA-3 cSA-4 cSA-5 cSA-6 cSA-7 cSA-8 cSI-1 cSI-2 cSI-3 cSI-4
    cSI-5 cSI-6 cSU-1 cSU-2 cSU-3 cSU-4 cSU-5 cSU-6 cSU-7 cSU-8 cSE-1 cSE-2 cSE-3 cSE-4 cSE-5 cSO-1
    cSO-2 cSO-3 cSO-4 cSO-5 cSO-6 cSO-7 cTA-1 cTA-2 cTA-3 cTA-4 cTI-1 cTI-2 cTI-3 cTI-4 cTI-5 cTI-6
    cTI-7 cTU-1 cTU-2 cTU-3 cTU-4 cTU-TO cTE-1 cTE-2 cTE-3 cTE-4 cTE-5 cTE-6 cTE-7 cTE-8 cTE-9
    cTO-1 cTO-2 cTO-3 cTO-4 cTO-5 cTO-6 cTO-RA cNA-1 cNA-2 cNA-3 cNA-4 cNA-5 cNA-6 cNA-7 cNA-8
    cNA-9 cNI-1 cNI-2 cNI-3 cNI-4 cNI-5 cNI-6 cNI-7 cNI-TE cNU-1 cNU-2 cNU-3 cNE-1 cNE-2 cNE-3
    cNE-4 cNE-5 cNE-6 cNE-KO cNO-1 cNO-2 cNO-3 cNO-4 cNO-5 cHA-1 cHA-2 cHA-3 cHA-4 cHA-5 cHA-6
    cHA-7 cHA-8 cHA-9 cHA-10 cHA-11 cHI-1 cHI-2 cHI-3 cHI-4 cHI-5 cHI-6 cHI-7 cHU-1 cHU-2 cHU-3
    cHE-1 cHE-2 cHE-3 cHE-4 cHE-5 cHE-6 cHE-7 cHO-1 cHO-2 cHO-3 cHO-4 cHO-5 cHO-6 cHO-7 cHO-8 cMA-1
    cMA-2 cMA-3 cMA-4 cMA-5 cMA-6 cMA-7 cMI-1 cMI-2 cMI-3 cMI-4 cMI-5 cMI-6 cMI-7 cMU-1 cMU-2 cMU-3
    cMU-4 cME-1 cME-2 cME-MA cMO-1 cMO-2 cMO-3 cMO-4 cMO-5 cMO-6 cYA-1 cYA-2 cYA-3 cYA-4 cYA-5
    cYA-YO cYU-1 cYU-2 cYU-3 cYU-4 cYO-1 cYO-2 cYO-3 cYO-4 cYO-5 cYO-6 cRA-1 cRA-2 cRA-3 cRA-4
    cRI-1 cRI-2 cRI-3 cRI-4 cRI-5 cRI-6 cRI-7 cRU-1 cRU-2 cRU-3 cRU-4 cRU-5 cRU-6 cRE-1 cRE-2 cRE-3
    cRE-4 cRO-1 cRO-2 cRO-3 cRO-4 cRO-5 cRO-6 cWA-1 cWA-2 cWA-3 cWA-4 cWA-5 cWI-1 cWI-2 cWI-3 cWI-4
    cWI-5 cWE-1 cWE-2 cWE-3 cWE-4 cWO-1 cWO-2 cWO-3 cWO-4 cWO-5 cWO-6 cWO-7 cN-MU-MO-1 cN-MU-MO-2
    aut_ac_jb_WU alo_ac_jb_YI dYE dWU =1B150 aut_ac_af_WI dWE dWO =1B164 alo_ac_af_WI dWE dWO dN
    =1B170 aNUSHU_ab bab bab bab bab bab bab bab bab bab bab bab bab bab bab bab bab bab bab bab
    bab bab bab bab bab bab bab bab bab bab bab bab bab bab bab bab bab bab bab bab bab bab bab bab
    bab bab bab bab bab bab bab bab bab bab bab bab bab bab bab bab bab bab bab bab bab bab bab bab
    bab bab bab bab bab bab bab bab bab bab bab bab bab bab bab bab bab bab bab bab bab bab bab bab
    bab bab bab bab bab bab bab bab bab bab bab bab bab bab bab bab bab bab bab bab bab bab bab bab
    bab bab bab bab bab bab bab bab bab bab bab bab bab bab bab bab bab bab bab bab bab bab bab bab
    bab bab bab bab bab bab bab bab bab bab bab bab bab bab bab bab bab bab bab bab bab bab bab bab
    bab bab bab bab bab bab bab bab bab bab bab bab bab bab bab bab bab bab bab bab bab bab bab bab
    bab bab bab bab bab bab bab bab bab bab bab bab bab bab bab bab bab bab bab bab bab bab bab bab
    bab bab bab bab bab bab bab bab bab bab bab bab bab bab bab bab bab bab bab bab bab bab bab bab
    bab bab bab bab bab bab bab bab bab bab bab bab bab bab bab bab bab bab bab bab bab bab bab bab
    bab bab bab bab bab bab bab bab bab bab bab bab bab bab bab bab bab bab bab bab bab bab bab bab
    bab bab bab bab bab bab bab bab bab bab bab bab bab bab bab bab bab bab bab bab bab bab bab bab
    bab bab bab bab bab bab bab bab bab bab bab bab bab bab bab bab bab bab bab bab bab bab bab bab
    bab bab bab bab bab bab bab bab bab bab bab bab bab bab bab bab bab bab bab bab bab bab bab bab
    bab bab bab bab bab bab bab bab bab bab bab bab bab bab bab bab bab bab bab bab bab bab bab bab
    bab bab bab bab bab bab bab bab bab bab bab bab bab bab bab bab =1BC00 aDUPLOYAN_ac_H cX cP cT
    cF cK cL cB cD cV cG cR cP_N cD_S cF_N cK_M cR_S cTH cSLOAN_DH cDH cKK cSLOAN_J cHL cLH cRH cM
    cN cJ cS cM_N cN_M cJ_M cS_J cM_ad_dc cN_ad_dc cJ_ad_dc edw_kp_bk_al cS_ad_dc fas cM_S cN_S
    cJ_S cS_S cM_N_S cN_M_S cJ_M_S cS_J_S cJ_S_ad_dc dN eS cS_T eR dP eR cT_S dR_S cW cWH cW_R cS_N
    dM cK_R_S cG_R_S cS_K eR cA cSLOAN_OW cOA cO cAOU cI cE cIE cfw_I cUI cEE cSLOAN_EH cROMANIAN_I
    cSLOAN_EE cfm_I cYE cU cEU cXW cU_N cfm_U cROMANIAN_U cUH cSLOAN_U cOOH cOW cOU cWA cWO cWI
    cWEI cWOW cNASAL_U dO dI dA cPERNIN_AN dAM cSLOAN_EN dAN dON ccz_M =1BC70 bAFFIX_ax_au_xq
    cMID_au_xq cak_au_xq ciy_ap_xq cMID_ap_xq cfy_ap_xq cuh_xq dnz_xq dTANGENT dia dE_by dI_by
    dTANGENT_by =1BC80 cfy_de dTIGHT_de dei dfm_ei ddc dbq dge drs dap =1BC90 ciy_de dTIGHT_de dei
    dfm_ei ddc dbq dge drs dap dag =1BC9C bam_O_ad_gu bTHICK_ac_SELECTOR ban_bl bce_CHINOOK_ii_gg
    aSHORTHAND_FORMAT_ac_OVERLAP cCONTINUING_OVERLAP cdi_STEP cUP_STEP =1CF00
    aZNAMENNY_dl_bl_GORAZDO_NIZKO_S_mr_ON_ax dNIZKO_S_mr_ON_ax dTSATA_ON_ax dGORAZDO_NIZKO_ON_ax
    dNIZKO_ON_ax dSREDNE_ON_ax dMALO_my_ON_ax dmy_ON_ax dVYSOKO_ON_ax dMALO_my_S_uw_ON_ax
    dmy_S_uw_ON_ax dVYSOKO_S_uw_ON_ax dGORAZDO_NIZKO_S_mr_ON_ak dNIZKO_S_mr_ON_ak dTSATA_ON_ak
    dGORAZDO_NIZKO_ON_ak dNIZKO_ON_ak dSREDNE_ON_ak dMALO_my_ON_ak dmy_ON_ak dVYSOKO_ON_ak
    dMALO_my_S_uw_ON_ak dmy_S_uw_ON_ak dVYSOKO_S_uw_ON_ak dTSATA_S_mr dMALO_my_S_mr
    dSTRANNO_MALO_my dmy_S_mr eSTRANNO dVYSOKO_S_mr dMALO_my_STRANNO dGORAZDO_VYSOKO dZELO dON
    dRAVNO dTIKHAYA dBORZAYA dUDARKA dPODVERTKA dLOMKA dKUPNAYA dKACHKA dZEVOK dSKOBA dRAZSEKA
    dKRYZH_ON_ax =1CF30 cTONAL_RANGE_bl_MRACHNO fSVETLO fTRESVETLO cbl_ZADERZHKA
    dDEMESTVENNY_ZADERZHKA dOTSECHKA dPODCHASHIE ead_ap_av dCHASHKA ePOLNAYA dOBLACHKO
    dSOROCHYA_NOZHKA dTOCHKA dDVOETOCHIE cATTACHING_ap_OMET cbl_rl_OMET dKRYZH ccw_TONAL_RANGE_nm
    bPRIZNAK_ez_LEVEL-2 dLEVEL-3 dDIRECTION_FLIP dKRYZH dROG =1CF50 bNEUME_KRYUK dTIKHY cPARAKLIT
    cDVA_V_CHELNU cKLYUCH cZANOZHEK cSTOPITSA dS_OCHKOM cPEREVODKA dmv cSTOPITSA_ad_SOROCHYA_NOZHKA
    cCHELYUSTKA cPALKA cnv cGOLUBCHIK_BORZY dTIKHY dMRACHNY dSVETLY dTRESVETLY cVRAKHIYA_PROSTAYA
    dMRACHNAYA dqr dvt dmg_PROSTAYA eMRACHNAYA eqr evt can_nv cbs_CHELYUSTKA cDERBITSA cKHAMILO
    cCHASHKA cPODCHASHIE cSKAMEYTSA_MRACHNAYA dqr dvt dTIKHAYA cDEMESTVENNY_KLYUCH cSKAMEYTSA_mg_qr
    dtz dmg_TIKHAYA dyr_PROSTAYA eqr emv emg cSLOZHITIE dS_vw dZAKRYTOE dS_mr cKRYZH cROG cFITA
    cKOBYLA cZMEYTSA cSTATYA dS_vw emr evw_I_mr emr_I_vw dZAKRYTAYA eS_vw dS_ROGOM
    eDVUMYA_ZAPYATYMI evw_I_PODCHASHIEM cPOLKULIZMY cSTATYA_mv cSTRELA_PROSTAYA dMRACHNOTIKHAYA
    dKRYZHEVAYA dPOLUPOVODNAYA dPOVODNAYA dmv dKLYUCHEPOVODNAYA dtz dTIKHAYA_PUTNAYA dyr
    dDVOECHELNOKRYZHEVAYA dwi dyr_mg dwi_mg dGROMNAYA_ad_cy_nv dqc_ad_cy_nv dGROMNAYA dqc ead_an_nv
    dGROMOKRYZHEVAYA ePOVODNAYA cMECHIK dPOVODNY dKLYUCHEVOY dKLYUCHEPOVODNY dKLYUCHENEPOSTOYANNY
    cSTRELA_TRYASOGLASNAYA dTRYASOPOVODNAYA dTRYASOSTRELNAYA cOSOKA dqr dvt dKRYUKOVAYA_qr dmg_qr
    emv cSTRELA_KRYUKOVAYA ePOVODNAYA eGROMNAYA_ad_cy_nv eqc_ad_cy_nv eGROMNAYA eqc fad_an_nv
    eGROMOKRYZHEVAYA fPOVODNAYA eTRYASKA cKUFISMA cOBLAKO cDUDA cNEMKA cPAUK =1D000
    aBYZANTINE_lx_aw_ea dDASEIA dcb dOXEIA_um eDIPLI dVAREIA_um eDIPLI dKATHISTI dSYRMATIKI
    dPARAKLITIKI dYPOKRISIS eDIPLI dKREMASTI dAPESO_um dEXO_um dTELEIA dwa dAPOSTROFOS eDIPLI
    dSYNEVMA dTHITA dOLIGON_hr dGORGON_hr dPSILON dCHAMILON dVATHY dISON_hr dKENTIMA_hr dwa_hr
    dSAXIMATA dPARICHON dSTAVROS_APODEXIA dOXEIAI_hr dVAREIAI_hr dAPODERMA_hr dAPOTHEMA dKLASMA
    dREVMA dPIASMA_hr dTINAGMA dANATRICHISMA dSEISMA dSYNAGMA_hr eMETA_STAVROU dOYRANISMA_hr dTHEMA
    dLEMOI dDYO dTRIA dTESSERA dKRATIMATA dAPESO_EXO_NEO dFTHORA_hr dIMIFTHORA dTROMIKON_hr
    dKATAVA_TROMIKON dPELASTON dPSIFISTON dKONTEVMA dCHOREVMA_hr dRAPISMA dPARAKALESMA_hr
    dPARAKLITIKI_hr dICHADIN dNANA dPETASMA dKONTEVMA_ALLO dTROMIKON_ALLO dSTRAGGISMATA
    dGRONTHISMATA dISON_NEO dOLIGON_NEO dOXEIA_NEO dPETASTI dKOUFISMA dPETASTOKOUFISMA
    dKRATIMOKOUFISMA dPELASTON_NEO dwa_NEO_ANO dKENTIMA_NEO_ANO dYPSILI dAPOSTROFOS_NEO
    dAPOSTROFOI_SYNDESMOS_NEO dYPORROI dKRATIMOYPORROON dELAFRON dCHAMILI dMIKRON_ISON dVAREIA_NEO
    dPIASMA_NEO dPSIFISTON_NEO dOMALON dANTIKENOMA dLYGISMA dPARAKLITIKI_NEO dPARAKALESMA_NEO
    dETERON_PARAKALESMA dKYLISMA dANTIKENOKYLISMA dTROMIKON_NEO dEKSTREPTON dSYNAGMA_NEO dSYRMA
    dCHOREVMA_NEO dEPEGERMA dSEISMA_NEO dXIRON_KLASMA dTROMIKOPSIFISTON dPSIFISTOLYGISMA
    dTROMIKOLYGISMA dTROMIKOPARAKALESMA dPSIFISTOPARAKALESMA dTROMIKOSYNAGMA dPSIFISTOSYNAGMA
    dGORGOSYNTHETON dARGOSYNTHETON dETERON_ARGOSYNTHETON dOYRANISMA_NEO dTHEMATISMOS_ESO eEXO
    dTHEMA_APLOUN dTHES_KAI_APOTHES dKATAVASMA dENDOFONON dYFEN_KATO eANO dSTAVROS dKLASMA_ANO
    dDIPLI_hr dKRATIMA_hr eALLO eNEO dAPODERMA_NEO dAPLI dDIPLI dTRIPLI dTETRAPLI dKORONIS
    dLEIMMA_ENOS_CHRONOU eDYO_CHRONON eTRION_CHRONON eTESSARON_CHRONON eIMISEOS_CHRONOU
    dGORGON_NEO_ANO ePARESTIGMENON_ARISTERA fDEXIA dDIGORGON ePARESTIGMENON_ARISTERA_KATO gANO
    fDEXIA dTRIGORGON dARGON dIMIDIARGON dDIARGON dAGOGI_POLI_ARGI eARGOTERI eARGI eMETRIA eMESI
    eGORGI eGORGOTERI ePOLI_GORGI dMARTYRIA_PROTOS_tr eALLI_PROTOS_tr eDEYTEROS_tr
    eALLI_DEYTEROS_tr eTRITOS_tr eTRIFONIAS eTETARTOS_tr fLEGETOS_tr eLEGETOS_tr ePLAGIOS_tr
    dISAKIA_TELOUS_ICHIMATOS dAPOSTROFOI_TELOUS_ICHIMATOS dFANEROSIS_TETRAFONIAS eMONOFONIAS
    eDIFONIAS dMARTYRIA_VARYS_tr ePROTOVARYS_tr ePLAGIOS_TETARTOS_tr dGORTHMIKON_N_APLOUN fDIPLOUN
    dENARXIS_KAI_FTHORA_VOU dIMIFONON dIMIFTHORON dFTHORA_hr_DEYTEROU_ICHOU eDIATONIKI_PA fNANA
    eNAOS_tr eDIATONIKI_DI eSKLIRON_DIATONON_DI eDIATONIKI_KE fZO fNI_KATO gANO
    eMALAKON_CHROMA_DIFONIAS gMONOFONIAS dFHTORA_SKLIRON_CHROMA_VASIS dFTHORA_SKLIRON_CHROMA_SYNAFI
    eNENANO dCHROA_ZYGOS eKLITON eSPATHI dFTHORA_I_YFESIS_TETARTIMORION eENARMONIOS_ANTIFONIA
    dYFESIS_TRITIMORION dDIESIS_TRITIMORION eTETARTIMORION eAPLI_DYO_pv eMONOGRAMMOS_TESSERA_pv
    eDIGRAMMOS_EX_pv eTRIGRAMMOS_OKTO_pv dYFESIS_APLI_DYO_pv eMONOGRAMMOS_TESSERA_pv
    eDIGRAMMOS_EX_pv eTRIGRAMMOS_OKTO_pv dGENIKI_DIESIS eYFESIS dDIASTOLI_APLI_MIKRI fMEGALI eDIPLI
    eTHESEOS dSIMANSIS_THESEOS fDISIMOU fTRISIMOU fTETRASIMOU eARSEOS fDISIMOU fTRISIMOU
    fTETRASIMOU dDIGRAMMA_GG dDIFTOGGOS_OU dSTIGMA dARKTIKO_PA eVOU eGA eDI eKE eZO eNI
    dwa_NEO_MESO dKENTIMA_NEO_MESO dwa_NEO_KATO dKENTIMA_NEO_KATO dKLASMA_KATO dGORGON_NEO_KATO
    =1D100 alx_aw_cy_ye can_ye cat_ye chy_at_ye cor_ye cfw_ye cax_REPEAT_am cak_REPEAT_am
    cREPEAT_dw cDAL_SEGNO cDA_CAPO cSEGNO cCODA cREPEATED_FIGURE-1 dFIGURE-2 dFIGURE-3 cFERMATA das
    cBREATH_bl cCAESURA cBRACE cbf cONE-LINE_STAFF cTWO-LINE_STAFF cTHREE-LINE_STAFF
    cFOUR-LINE_STAFF cFIVE-LINE_STAFF cSIX-LINE_STAFF cSIX-STRING_FRETBOARD cFOUR-STRING_FRETBOARD
    cG_CLEF eOTTAVA_ALTA fBASSA cC_CLEF cF_CLEF eOTTAVA_ALTA fBASSA cDRUM_CLEF-1 dCLEF-2 =1D129
    ckh_zg_vg can_SHARP dFLAT cFLAT_UP ddi cNATURAL_UP ddi cSHARP_UP ddi cfl_fq_SHARP eFLAT
    cCOMMON_TIME cCUT_TIME cOTTAVA_ALTA dBASSA cQUINDICESIMA_ALTA dBASSA cMULTI_vg cWHOLE_vg cdj_vg
    cfl_vg cic_vg cse_vg cwv_vg czx_vg ccu_bb_TWENTY-EIGHTH_vg cX_lc cdb_lc cbq_X_lc cbp_lc_be eaz
    cbi_lc_UP_be faz eax_be faz eak_be faz edi_be faz eUP_ak_be gaz cos_lc_be eaz
    cTRIANGLE-ROUND_lc_di_be faz ccf_lc cVOID_lc clc_az cNULL_lc cCLUSTER_lc_be eaz cfi cWHOLE_ta
    cdj_ta cfl_ta cic_ta cse_ta cwv_ta czx_ta ccu_bb_TWENTY-EIGHTH_ta cdl_STEM dSPRECHGESANG_STEM
    dTREMOLO-1 dTREMOLO-2 dTREMOLO-3 cFINGERED_TREMOLO-1 dTREMOLO-2 dTREMOLO-3 cdl_AUGMENTATION_dc
    dFLAG-1 dFLAG-2 dFLAG-3 dFLAG-4 dFLAG-5 cBEGIN_BEAM cuc_BEAM cBEGIN_TIE cuc_TIE cBEGIN_SLUR
    cuc_SLUR cBEGIN_PHRASE cuc_PHRASE cdl_fv dSTACCATO dTENUTO dSTACCATISSIMO dMARCATO
    dMARCATO-STACCATO dACCENT-STACCATO dLOURE cARPEGGIATO_UP ddi cdl_DOIT dRIP dFLIP dSMEAR dBEND
    dan_TONGUE dev_TONGUE cRINFORZANDO cSUBITO cZ cPIANO cMEZZO cFORTE cCRESCENDO cDECRESCENDO
    cGRACE_ta_qp eNO_qp cTR cTURN ccc_TURN cTURN_qp dUP ccq_STROKE-1 dSTROKE-2 dSTROKE-3 dSTROKE-4
    dSTROKE-5 dSTROKE-6 dSTROKE-7 dSTROKE-8 dSTROKE-9 dSTROKE-10 dSTROKE-11 cHAUPTSTIMME
    cNEBENSTIMME cuc_OF_STIMME cDEGREE_qp cdl_di_BOW dUP_BOW dHARMONIC dSNAP_PIZZICATO cPEDAL_bl
    dUP_bl cdj_PEDAL_bl cGLISSANDO_UP ddi cad_FINGERNAILS cDAMP dALL cMAXIMA cLONGA cBREVIS
    cSEMIBREVIS_be daz cMINIMA daz cSEMIMINIMA_be daz cFUSA_be daz cLONGA_PERFECTA_vg
    dIMPERFECTA_vg cBREVIS_vg cSEMIBREVIS_vg cMINIMA_vg cSEMIMINIMA_vg
    cTEMPUS_PERFECTUM_CUM_PROLATIONE_PERFECTA gIMPERFECTA gPERFECTA_DIMINUTION-1
    dIMPERFECTUM_CUM_PROLATIONE_PERFECTA gIMPERFECTA hDIMINUTION-1 hDIMINUTION-2 hDIMINUTION-3
    cCROIX cGREGORIAN_C_CLEF dF_CLEF cbp_B cVIRGA cPODATUS cCLIVIS cSCANDICUS cCLIMACUS cTORCULUS
    cPORRECTUS dFLEXUS cSCANDICUS_FLEXUS cTORCULUS_RESUPINUS cPES_SUBPUNCTIS cKIEVAN_C_CLEF
    duc_OF_PIECE dat_ta dRECITATIVE_bl dWHOLE_ta ddj_ta dfl_ta_STEM_di gUP dic_ta_STEM_di gUP
    dFLAT_am cSORI cKORON =1D200 akr_VOCAL_qi_SYMBOL-1 dSYMBOL-2 dSYMBOL-3 dSYMBOL-4 dSYMBOL-5
    dSYMBOL-6 dSYMBOL-7 dSYMBOL-8 dSYMBOL-9 dSYMBOL-10 dSYMBOL-11 dSYMBOL-12 dSYMBOL-13 dSYMBOL-14
    dSYMBOL-15 dSYMBOL-16 dSYMBOL-17 dSYMBOL-18 dSYMBOL-19 dSYMBOL-20 dSYMBOL-21 dSYMBOL-22
    dSYMBOL-23 dSYMBOL-24 dSYMBOL-50 dSYMBOL-51 dSYMBOL-52 dSYMBOL-53 dSYMBOL-54
    bINSTRUMENTAL_qi_SYMBOL-1 dSYMBOL-2 dSYMBOL-4 dSYMBOL-5 dSYMBOL-7 dSYMBOL-8 dSYMBOL-11
    dSYMBOL-12 dSYMBOL-13 dSYMBOL-14 dSYMBOL-17 dSYMBOL-18 dSYMBOL-19 dSYMBOL-23 dSYMBOL-24
    dSYMBOL-25 dSYMBOL-26 dSYMBOL-27 dSYMBOL-29 dSYMBOL-30 dSYMBOL-32 dSYMBOL-36 dSYMBOL-37
    dSYMBOL-38 dSYMBOL-39 dSYMBOL-40 dSYMBOL-42 dSYMBOL-43 dSYMBOL-45 dSYMBOL-47 dSYMBOL-48
    dSYMBOL-49 dSYMBOL-50 dSYMBOL-51 dSYMBOL-52 dSYMBOL-53 dSYMBOL-54 adl_kr_lx_TRISEME dTETRASEME
    dPENTASEME akr_lx_LEIMMA =1D2E0 aMAYAN_pf_fb ccu ccn cay cbv cca cga cbx cbt cdo ckc cpw cns
    cqt cqa cny cph cno coe cqh =1D300 avb_tq_rv aDIGRAM_tq_HEAVENLY_rv cHUMAN_rv cEARTHLY_HEAVEN
    dHUMAN crv aTETRAGRAM_tq_eb cii_bq cMIRED cBARRIER cKEEPING_af cCONTRARIETY cASCENT cOPPOSITION
    cBRANCHING_OUT cDEFECTIVENESS_OR_DISTORTION cDIVERGENCE cYOUTHFULNESS cINCREASE cPENETRATION
    cREACH cyk cyx_BACK cWAITING cFOLLOWING cADVANCE cRELEASE cRESISTANCE cEASE cJOY cCONTENTION
    cENDEAVOUR cDUTIES cCHANGE cDECISIVENESS cnc_RESOLUTION cPACKING cLEGION cCLOSENESS cKINSHIP
    cGATHERING cSTRENGTH cPURITY cFULLNESS cRESIDENCE cLAW_OR_MODEL cRESPONSE cGOING_TO_MEET
    cENCOUNTERS cSTOVE cGREATNESS cENLARGEMENT cPATTERN cRITUAL cFLIGHT cVASTNESS_OR_WASTING
    cCONSTANCY czg cETERNITY cUNITY cDIMINISHMENT cgo_mh cGUARDEDNESS cGATHERING_IN cMASSING
    cACCUMULATION cEMBELLISHMENT cDOUBT cWATCH cSINKING cINNER cDEPARTURE cDARKENING cDIMMING
    cEXHAUSTION cSEVERANCE cSTOPPAGE cHARDNESS cCOMPLETION cCLOSURE cFAILURE cAGGRAVATION
    cCOMPLIANCE cON_ua_VERGE cDIFFICULTIES cLABOURING cFOSTERING =1D360 aCOUNTING_ROD_UNIT_ct_cu
    ecn eay ebv eca ega ebx ebt edo cTENS_ct_cu ecn eay ebv eca ega ebx ebt edo agw_TALLY_bl_cu dcn
    day dbv dca aTALLY_bl_cu cca =1D400 amu_nc_ae_A dB dC dD dE dF dG dH dI dJ dK dL dM dN dO dP dQ
    dR dS dT dU dV dW dX dY dZ caf_A dB dC dD dE dF dG dH dI dJ dK dL dM dN dO dP dQ dR dS dT dU dV
    dW dX dY dZ brn_ae_A dB dC dD dE dF dG dH dI dJ dK dL dM dN dO dP dQ dR dS dT dU dV dW dX dY dZ
    caf_A dB dC dD dE dF dG =1D456 dI dJ dK dL dM dN dO dP dQ dR dS dT dU dV dW dX dY dZ
    bnc_rn_ae_A eB eC eD eE eF eG eH eI eJ eK eL eM eN eO eP eQ eR eS eT eU eV eW eX eY eZ daf_A eB
    eC eD eE eF eG eH eI eJ eK eL eM eN eO eP eQ eR eS eT eU eV eW eX eY eZ bio_ae_A =1D49E dC dD
    =1D4A2 dG =1D4A5 dJ dK =1D4A9 dN dO dP dQ =1D4AE dS dT dU dV dW dX dY dZ caf_A dB dC dD =1D4BB
    dF =1D4BD dH dI dJ dK dL dM dN =1D4C5 dP dQ dR dS dT dU dV dW dX dY dZ bnc_io_ae_A eB eC eD eE
    eF eG eH eI eJ eK eL eM eN eO eP eQ eR eS eT eU eV eW eX eY eZ daf_A eB eC eD eE eF eG eH eI eJ
    eK eL eM eN eO eP eQ eR eS eT eU eV eW eX eY eZ bFRAKTUR_ae_A dB =1D507 dD dE dF dG =1D50D dJ
    dK dL dM dN dO dP dQ =1D516 dS dT dU dV dW dX dY =1D51E caf_A dB dC dD dE dF dG dH dI dJ dK dL
    dM dN dO dP dQ dR dS dT dU dV dW dX dY dZ bhh_ae_A dB =1D53B dD dE dF dG =1D540 dI dJ dK dL dM
    =1D546 dO =1D54A dS dT dU dV dW dX dY =1D552 caf_A dB dC dD dE dF dG dH dI dJ dK dL dM dN dO dP
    dQ dR dS dT dU dV dW dX dY dZ bnc_FRAKTUR_ae_A eB eC eD eE eF eG eH eI eJ eK eL eM eN eO eP eQ
    eR eS eT eU eV eW eX eY eZ daf_A eB eC eD eE eF eG eH eI eJ eK eL eM eN eO eP eQ eR eS eT eU eV
    eW eX eY eZ beu_ae_A dB dC dD dE dF dG dH dI dJ dK dL dM dN dO dP dQ dR dS dT dU dV dW dX dY dZ
    caf_A dB dC dD dE dF dG dH dI dJ dK dL dM dN dO dP dQ dR dS dT dU dV dW dX dY dZ cnc_ae_A eB eC
    eD eE eF eG eH eI eJ eK eL eM eN eO eP eQ eR eS eT eU eV eW eX eY eZ daf_A eB eC eD eE eF eG eH
    eI eJ eK eL eM eN eO eP eQ eR eS eT eU eV eW eX eY eZ crn_ae_A eB eC eD eE eF eG eH eI eJ eK eL
    eM eN eO eP eQ eR eS eT eU eV eW eX eY eZ daf_A eB eC eD eE eF eG eH eI eJ eK eL eM eN eO eP eQ
    eR eS eT eU eV eW eX eY eZ cnc_rn_ae_A fB fC fD fE fF fG fH fI fJ fK fL fM fN fO fP fQ fR fS fT
    fU fV fW fX fY fZ eaf_A fB fC fD fE fF fG fH fI fJ fK fL fM fN fO fP fQ fR fS fT fU fV fW fX fY
    fZ bMONOSPACE_ae_A dB dC dD dE dF dG dH dI dJ dK dL dM dN dO dP dQ dR dS dT dU dV dW dX dY dZ
    caf_A dB dC dD dE dF dG dH dI dJ dK dL dM dN dO dP dQ dR dS dT dU dV dW dX dY dZ brn_af_lf_I eJ
    =1D6A8 bnc_ae_ip dtx dln dmo dgz dZETA dETA dkw dmk doj dsa dMU dNU dXI djl dPI dRHO dkw_aw dkl
    dTAU dgs dPHI dCHI dPSI dhu cNABLA caf_ip dtx dln dmo dgz dZETA dETA dkw dmk doj dsa dMU dNU
    dXI djl dPI dRHO dat_kl dkl dTAU dgs dPHI dCHI dPSI dhu ctb_mp cgz_aw ckw_aw coj_aw cPHI_aw
    cRHO_aw cPI_aw brn_ae_ip dtx dln dmo dgz dZETA dETA dkw dmk doj dsa dMU dNU dXI djl dPI dRHO
    dkw_aw dkl dTAU dgs dPHI dCHI dPSI dhu cNABLA caf_ip dtx dln dmo dgz dZETA dETA dkw dmk doj dsa
    dMU dNU dXI djl dPI dRHO dat_kl dkl dTAU dgs dPHI dCHI dPSI dhu ctb_mp cgz_aw ckw_aw coj_aw
    cPHI_aw cRHO_aw cPI_aw bnc_rn_ae_ip etx eln emo egz eZETA eETA ekw emk eoj esa eMU eNU eXI ejl
    ePI eRHO ekw_aw ekl eTAU egs ePHI eCHI ePSI ehu dNABLA daf_ip etx eln emo egz eZETA eETA ekw
    emk eoj esa eMU eNU eXI ejl ePI eRHO eat_kl ekl eTAU egs ePHI eCHI ePSI ehu dtb_mp dgz_aw
    dkw_aw doj_aw dPHI_aw dRHO_aw dPI_aw beu_nc_ae_ip etx eln emo egz eZETA eETA ekw emk eoj esa
    eMU eNU eXI ejl ePI eRHO ekw_aw ekl eTAU egs ePHI eCHI ePSI ehu dNABLA daf_ip etx eln emo egz
    eZETA eETA ekw emk eoj esa eMU eNU eXI ejl ePI eRHO eat_kl ekl eTAU egs ePHI eCHI ePSI ehu
    dtb_mp dgz_aw dkw_aw doj_aw dPHI_aw dRHO_aw dPI_aw drn_ae_ip ftx fln fmo fgz fZETA fETA fkw fmk
    foj fsa fMU fNU fXI fjl fPI fRHO fkw_aw fkl fTAU fgs fPHI fCHI fPSI fhu eNABLA eaf_ip ftx fln
    fmo fgz fZETA fETA fkw fmk foj fsa fMU fNU fXI fjl fPI fRHO fat_kl fkl fTAU fgs fPHI fCHI fPSI
    fhu etb_mp egz_aw ekw_aw eoj_aw ePHI_aw eRHO_aw ePI_aw bnc_ae_yp caf_yp =1D7CE cct_fb dcu dcn
    day dbv dca dga dbx dbt ddo bhh_ct_fb dcu dcn day dbv dca dga dbx dbt ddo beu_ct_fb dcu dcn day
    dbv dca dga dbx dbt ddo cnc_ct_fb ecu ecn eay ebv eca ega ebx ebt edo bMONOSPACE_ct_fb dcu dcn
    day dbv dca dga dbx dbt ddo aSIGNWRITING_ep_ck bfz_ck bus_ck bvz_ck bgk_ck biw_ck bep_ck_mm
    bfz_ck_mm bep_dv_UNDER_ck_mm cck_ij_KNUCKLE dCUPPED dmd eiy bfz_ck_HINGE bep_ck_bd bfz_ck_bd
    bep_ck_bd_mm eij_KNUCKLES emd dUP_bd_md dmd_bd_UP dbd_hd fck_mm fbd_mm fCUPPED fmd elt
    bfz_ck_bd_lt bep_bd_mm_dz_ck cck_mm_dz_bd dbd_dv bfz_ck_bd_dv bep_ck_bd_gm_dv_mm emm_dv_gm
    edv_mm emd_ov_dv_ou dUP_bd_md_dv_ou hhd dmd_bd_UP_dv_ou dbd_UP_ov_dv_ji edv_CUPPED fdm fHOOKED
    fmd cdv_js_ck_bd_gm cck_bd_hd_dv_ou hhd hmm cbd_dv_HOOKED_ck_UP cck_dv_HOOKED_bd_UP
    dbd_hd_md_dv_ou elt_dv_ou ehd_dv_ji fCUPPED_dv_ji cbd_dv_CUPPED_ck_UP cck_dv_CUPPED_bd_UP
    cbd_dv_dm_ck_UP gmd cck_dv_ANGLED_OUT_bd_UP fIN_bd_UP edm_bd_UP dbd_dv_hd_md fANGLED_OUT g
    cbd_dv_ANGLED_OUT_ck_UP hlt fck_UP cck_dv_HOOKED_bd_md bHAND-FLAT_bv_hj emm emd ehd fSPLIT
    bHAND-CLAW_bv_hj_hd bep_bv_hj_hd_mm bgk_bv_hj_hd bHAND-FLAT_ca_hj_ov cHEEL_ca_hj_ov
    cca_hj_ov_bv_mm cHEEL_ca_hj_ov_bv_mm cca_hj_ov_mm cHEEL_ca_hj_ov_mm cca_hj_ov_dv_ji
    bus_ca_hj_ov ffj bgk_ca_hj_ov_fj bvz_ca_hj_ov bHAND-FLAT_ca_hj_ov_md gdv_ou gNO_dv c
    cjs_PALM_FACINGS cHEEL cdv_ou cHEEL_dv_ou cdv_mm dji cSPLIT_ck_dv_ou deb edv_ou gmm ded
    bHAND-CLAW cdv_ou cNO_dv cdv_ji bvy_CURLICUE c bus_fj c cfj_dv_ou cdv_ou cfj_NO_dv cNO_dv
    cfj_dv_ji cdv_ji bwn_fj c bfz bvz cdv_ou cNO_dv cdv_ji bgk_fj ddv_ji c caf cfj_dv_ou cdv_ou
    cfj_NO_dv cNO_dv cdv_ou_TOUCHING_ck djs_bd_el biw bep_ck_bd_el bfz_ck_bd_el bgk_ck_bd_el
    biw_ck_bd_el bgk_ed bep_ck_bd_el_mm fhd bgk_ck_bd_el_hd bep_ed_di eRIPPLE_gm frl eOTHERS_dm dUP
    cdv_UNDER_ed_UP bfz_ed_UP bvz_ed_UP biw_ed_UP bep_ed_ij_KNUCKLE dmm dTOUCHES_dv ddv bgk_ed_dv
    bep_ed_ck_dv bgk_ed_ck_dv biw_ed_ck_dv_ck_dv_OUT h bep_ed_ck bfz_ed_ck bgk_ed_ck biw_ed_ck
    bep_ck_bd_ed bfz_ck_bd_ed bgk_ck_bd_ed cel biw_ck_bd_ed bep_ck_bd_gu_ed bfz_ck_bd_gu_ed
    bep_el_di bgk_el_di_ck_dv_by_bd biw_el_di_bd_dv_ck_gu bep_el_UP dij_KNUCKLE ded bfz_el_ed
    bvz_el_ed biw_el_ed bep_el_bd ehd eij_KNUCKLES dck ddv bvy_el_dv bep_ck_el_ed bfz_ck_el_ed
    bwn_ck_el_ed_ON bvy_ck_el_ed_OUT fIN fUNDER bus_ck_el_ed bgk_ck_el_ed biw_ck_el_ed_OUT f
    bep_bd_di bgk_bd bep_bd_UP bfz_bd_UP bep_bd_ij_KNUCKLE dUP_dv_ou bvy_bd_dv bep_bd_dv_ed ded
    del_ed bfz_bd_el_ed bwn_bd_el_ed_ON bus_bd_el_ed bgk_bd_el_ed biw_bd_el_ed_OUT fIN f
    bfz_bd_el_ed_mm bHAND-CLAW_bd_el_ed_hd gou bvy_bd_el_ed_hd_OUT gIN g bgk_ck_md bep_ck_dv_ou
    bgk_ck_dv_ou bep_ck_dv_ou_dv_dn ghd gmm fck_mm fBOTH_mm fck_HINGE eji_ck_gm gmm eby eCURLICUE
    eoc_dv_kp bHAND-CLAW_ck_dv_oc_dv_kp bep_ck_dv_oc_dv_UNDER ebq bus_ck_dv efj bgk_ck_dv_fj eeh e
    eaf biw_ck_dv_OUT eIN e bep_dv dHEEL dou_dn ehd emm dji djs_ck_bd ebd_el eel_ed dUNDER_cn_hj
    ddz_cn_hj dUNDER_ay_hj ebv_hj ddz_bv_ij_KNUCKLES c cHEEL bTOUCH_cy ckh cjs bGRASP_cy ckh cjs
    bSTRIKE_cy ckh cjs bBRUSH_cy ckh cjs bRUB_cy ckh cjs bSURFACE_SYMBOLS cjs bSQUEEZE_eh_cy caf_cy
    ceh_kh caf_kh cxr bFLICK_eh_cy caf_cy ceh_kh caf_kh cxr bSQUEEZE_FLICK_fp
    bMOVEMENT-HINGE_UP_di_eh eaf dxr cdi_xr cUP_di_fp_eh faf cou_TO_ou_vn ber_xd_yk bek_xd_yk
    ber_cy_gm_af ecg eeh erd dvv_FLEX can_gm dvv_FLEX dfp evv_FLEX cgu cev_gm_qg dvv_FLEX dfp
    evv_FLEX cBEND_af dcg deh chc_af dcg deh dROTATION cuk_af dcg deh cBOX_af dcg deh cya_af dcg
    deh cPEAKS_af dcg deh bTRAVEL-WALLPLANE_kf_cy dan dfp cjt_cy dan dfp cSHAKING cARM_SPIRAL_cy
    ean eev bMOVEMENT-DIAGONAL_AWAY_af dcg deh drd cTOWARDS_af dcg deh drd cjs_AWAY_af ecg eeh erd
    dTOWARDS_af ecg eeh erd bek_cy_gm_af ecg eeh erd dvv_FLEX can_gm dvv_FLEX dfp evv_FLEX cgu
    cev_gm_qg dvv_FLEX dfp_qg evv_FLEX cBEND chc_af dcg deh cuk cBOX_af dcg deh cya_af dcg deh
    cPEAKS_af dcg deh bTRAVEL-FLOORPLANE_jt_cy dan dfp ckf_cy dan dfp cSHAKING ber_oc_fl_af ecg eeh
    erd dHALF-CIRCLE_af ecg eeh erd dTHREE-QUARTER_bq_af fcg cHUMP_af dcg deh cva_af dcg deh daf_an
    crs_oc_an_af fcg feh eev_af fcg feh coc_THEN_gm crl_gu_af ecg bkf_cy can cfr ber_SHAKING
    coc_fx_FRONT_WALL cHUMP_fx_FRONT_WALL cva_fx_FRONT_WALL crs_fx_FRONT_WALL bkf_cy_fx_FRONT_WALL
    can_fx_FRONT_WALL cfp_fx_FRONT_WALL ber_oc_fx_CHEST cHUMP_fx_CHEST cva_fx_CHEST crs_fx_CHEST
    bkf_cy_fx_CHEST can_fx_CHEST cfp_fx_CHEST ber_rs_dn_PATH_af fcg feh bek_oc_fx_qz_af feh
    cHUMP_fx_qz_af_an feh_an faf_ev feh_ev cva_fx_qz_af_cy feh_cy faf_an feh_an crs_fx_qz_af feh
    bjt_cy_fx_qz can_fx_qz cfp_fx_qz bek_oc_fx_ys_af feh cHUMP_fx_ys_af_an feh_an fev_af_ev geh_ev
    cva_fx_ys_af_cy feh_cy faf_an feh_an crs_fx_ys_af feh bjt_cy_fx_ys can_fx_ys cfp_fx_ys
    bek_oc_af dcg deh drd dCOMBINED cHUMP_af cva_af crs_SNAKE daf deh bjt_cy can cfp bek_SHAKING_qm
    ber_ARM_bq_af_cy ecg_cy eaf_an ecg_an bek_ARM_bq_fx_WALL_af_cy gcg_cy geh_cy gaf_an gcg_an
    geh_an ber_vv_bq_FRONT_cy fan bek_vv_bq_fx_WALL_cy gan ber_xd_ls_cy ean bek_xd_ls_fx_WALL_cy
    gan bDYNAMIC_bo_af deh cFAST cSLOW cTENSE cRELAXED cSIMULTANEOUS dfp cEVERY_OTHER_TIME cGRADUAL
    bty cRIM cer_gm dTILT cek_gm cer_oc cek_oc cqg_bq bdu_DIRECTION_POSITION_NOSE_ji_TILTING
    fUP_OR_di iTILTING bEYEBROWS_gm_UP dhx ddi bDREAMY_EYEBROWS_hx_di ddi_hx dUP_hx dhx_UP
    bFOREHEAD_hx cyk csh brx_fj cSQUEEZED cgo bEYE_BLINK_cy dkh brx_dj_fj cWIDE_fj cdj_go
    cWIDENING_qg bEYE_WINK bEYELASHES_UP cdi cFLUTTERING brb_gm dan dfp bxc_gm dan dfp brb_rl
    bxc_rl brb_CIRCLING bCHEEKS_PUFFED chx cSUCKED bTENSE_CHEEKS_fy dbd diy bEARS bNOSE_hx cyk
    cWRINKLES cWIGGLES bAIR_BLOWING_OUT cSUCKING_IN cBLOW_af_ROTATIONS cSUCK_af_ROTATIONS
    bBREATH_INHALE cEXHALE bmh_go_hx dji dyk cSMILE dsh dfj cFROWN dsh dfj cfj_bq dji dsh dOVAL esh
    eYAWN dpn esh eYAWN cKISS dji dsh cTENSE dji dSUCKED bLIPS_PRESSED_TOGETHER bLIP_cw_dz_dt
    cdt_dz_cw bmh_yl cWRINKLES_cy dan bTONGUE_STICKING_OUT_FAR cLICKING_LIPS cTIP_js_LIPS
    dTOUCHING_kp_mh ckp_mh_RELAXED cMOVES_AGAINST_CHEEK ceb_STICKING_OUT dkp_mh bTEETH cqg
    cON_TONGUE eqg dLIPS eqg cBITE_LIPS ber_JAW bek_JAW bNECK bHAIR bEXCITEMENT bSHOULDER_HIP_SPINE
    dPOSITIONS bWALLPLANE_SHOULDER_HIP_MOVE bFLOORPLANE_SHOULDER_HIP_MOVE
    bSHOULDER_TILTING_mi_WAIST bTORSO-WALLPLANE_gm_STRETCH crl_BEND bTORSO-FLOORPLANE_TWISTING
    bdt_BODY_TILTING_mi_HIP_JOINTS bLIMB_COMBINATION cLENGTH-1 cLENGTH-2 cLENGTH-3 cLENGTH-4
    cLENGTH-5 cLENGTH-6 cLENGTH-7 bxd bLOCATION-WALLPLANE_lr bLOCATION-FLOORPLANE_lr
    bLOCATION_HEIGHT cWIDTH cDEPTH cty_NECK cTORSO cLIMBS_DIGITS bew bii_gg bjy biv bcf =1DA9B
    bFILL_MODIFIER-2 cMODIFIER-3 cMODIFIER-4 cMODIFIER-5 cMODIFIER-6 =1DAA1 bROTATION_MODIFIER-2
    cMODIFIER-3 cMODIFIER-4 cMODIFIER-5 cMODIFIER-6 cMODIFIER-7 cMODIFIER-8 cMODIFIER-9
    cMODIFIER-10 cMODIFIER-11 cMODIFIER-12 cMODIFIER-13 cMODIFIER-14 cMODIFIER-15 cMODIFIER-16
    =1DF00 afu_af_ac_FENG_gp_ad_TRILL dbs_io_G bac_af_ae_cj_G baf_ac_bs_K bac_af_ae_L_ad_BELT
    baf_ac_LEZH_ad_da_by dcj_Y_ad_BELT dbs_ENG dcj_R_ad_fm_LEG_bk_da_by dT_ad_by_bk_da_by
    bac_da_wm_ad_da_by baf_ac_ESH_ad_an_gh hbk_rk dcj_T_ad_rk bac_cc_gr_gg_ad_rk cSTRETCHED_C_ad_rk
    caf_ae_cj_K baf_ac_L_ad_ry dDEZH_gp_ad_gj_by dL_ad_BELT_bk_gj_by dENG_ad_gj_by dcj_R_ad_gj_by
    dR_ad_ry_bk_gj_by dTESH_gp_ad_gj_by dEZH_ad_gj_by dDEZH_gp_ad_da_by dI_ad_av_bk_da_by
    dO_ad_da_by dTESH_gp_ad_da_by dC_ad_da_by dS_ad_rk =1E000 adl_GLAGOLITIC_ac_AZU dBUKY dVEDE
    dGLAGOLI dDOBRO dYESTU dZHIVETE =1E008 dZEMLJA dIZHE dar_IZHE dI dDJERVI dKAKO dLJUDIJE
    dMYSLITE dNASHI dONU dPOKOJI dRITSI dSLOVO dTVRIDO dUKU dFRITU dHERU =1E01B dSHTA dTSI dCHRIVI
    dkx dYERU dYERI dYATI =1E023 dYU daf_YUS =1E026 dYO dyz_af_YUS dBIG_YUS dyz_BIG_YUS dFITA
    =1E100 aNYIAKENG_PUACHUE_HMONG_ac_MA ezy eNTA eTA eHA eNA eXA eNKA eCA eLA eSA eZA eNCA eNTSA
    eKA eDA elp eNRA eVA eNTXA eTXA eFA eRA eQA eYA eNQA ePA eXYA eNPA eDLA eNPLA eje eMLA ePLA eGA
    eRRA eA eAA eI eU eO eOO eE eEE eW =1E130 dTONE-B dTONE-M dTONE-J dTONE-V dTONE-S dTONE-G
    dTONE-D dam_tq_me fTHING fLOCATION fANIMAL fINVERTEBRATE eXW_XW dil_xj =1E140 dct_fb ecu ecn
    eay ebv eca ega ebx ebt edo =1E14E dzf_NYAJ ddm_CA =1E290 aTOTO_ac_PA cBA cTA cDA cKA cGA cMA
    cNA ckt cSA clm cYA cWA cJA cHA cRA cLA cI cBREATHY_I cIU cBREATHY_IU cU cE cBREATHY_E cEO
    cBREATHY_EO cO cAE cBREATHY_AE cA bam_ot_fq =1E2C0 aWANCHO_ac_AA cA cBA cCA cDA cGA cYA coa cLA
    cNA cPA cTA cml cFA cSA ckx cJA cZA cWA cVA cKA cO cAU cRA cMA clu cHA cE cI ckt cU cLLHA czy
    cTRA cONG cAANG cANG cING cON cEN cAAN clp cUEN cYIH bfq_TUP cTUPNI cKOI cKOINI bct_fb ccu ccn
    cay cbv cca cga cbx cbt cdo =1E2FF bNGUN_am =1E7E0 aETHIOPIC_il_HHYA cHHYU cHHYI cHHYAA cHHYEE
    cHHYE cHHYO =1E7E8 cGURAGE_HHWA cHHWI cHHWEE cHHWE =1E7ED cGURAGE_MWI dMWEE =1E7F0 dQWI dQWEE
    dQWE dBWI dBWEE dKWI dKWEE dKWE dGWI dGWEE dGWE dFWI dFWEE dPWI dPWEE =1E800
    aMENDE_KIKAKUI_il_M001_KI dM002_KA dM003_KU dM065_KEE dM095_KE dM076_KOO dM048_KO dM179_KUA
    dM004_WI dM005_WA dM006_WU dM126_WEE dM118_WE dM114_WOO dM045_WO dM194_WUI dM143_WEI dM061_WVI
    dM049_WVA dM139_WVE dM007_MIN dM008_MAN dM009_MUN dM059_MEN dM094_MON dM154_MUAN dM189_MUEN
    dM010_BI dM011_BA dM012_BU dM150_BEE dM097_BE dM103_BOO dM138_BO dM013_I dM014_A dM015_U
    dM163_EE dM100_E dM165_OO dM147_O dM137_EI dM131_IN dM135_IN dM195_AN dM178_EN dM019_SI
    dM020_SA dM021_SU dM162_SEE dM116_SE dM136_SOO dM079_SO dM196_SIA dM025_LI dM026_LA dM027_LU
    dM084_LEE dM073_LE dM054_LOO dM153_LO dM110_fm_LE dM016_DI dM017_DA dM018_DU dM089_DEE
    dM180_DOO dM181_DO dM022_TI dM023_TA dM024_TU dM091_TEE dM055_TE dM104_TOO dM069_TO dM028_JI
    dM029_JA dM030_JU dM157_JEE dM113_JE dM160_JOO dM063_JO dM175_fm_JO dM031_YI dM032_YA dM033_YU
    dM109_YEE dM080_YE dM141_YOO dM121_YO dM034_FI dM035_FA dM036_FU dM078_FEE dM075_FE dM133_FOO
    dM088_FO dM197_FUA dM101_FAN dM037_NIN dM038_NAN dM039_qv dM117_NEN dM169_NON dM176_HI dM041_HA
    dM186_HU dM040_HEE dM096_HE dM042_HOO dM140_HO dM083_HEEI dM128_HOOU dM053_HIN dM130_HAN
    dM087_HUN dM052_HEN dM193_HON dM046_HUAN dM090_NGGI dM043_NGGA dM082_NGGU dM115_NGGEE
    dM146_NGGE dM156_NGGOO dM120_NGGO dM159_NGGAA dM127_NGGUA dM086_fm_NGGE dM106_fm_NGGOO
    dM183_fm_NGGO dM155_GI dM111_GA dM168_GU dM190_GEE dM166_GUEI dM167_GUAN dM184_NGEN dM057_NGON
    dM177_NGUAN dM068_PI dM099_PA dM050_PU dM081_PEE dM051_PE dM102_POO dM066_PO dM145_MBI
    dM062_MBA dM122_MBU dM047_MBEE dM188_MBEE dM072_MBE dM172_MBOO dM174_MBO dM187_MBUU
    dM161_fm_MBE dM105_fm_MBOO dM142_fm_MBO dM132_KPI dM092_KPA dM074_KPU dM044_KPEE dM108_KPE
    dM112_KPOO dM158_KPO dM124_GBI dM056_GBA dM148_GBU dM093_GBEE dM107_GBE dM071_GBOO dM070_GBO
    dM171_RA dM123_NDI dM129_NDA dM125_NDU dM191_NDEE dM119_NDE dM067_NDOO dM064_NDO dM152_NJA
    dM192_NJU dM149_NJEE dM134_NJOO dM182_VI dM185_VA dM151_VU dM173_VEE dM085_VE dM144_VOO
    dM077_VO dM164_NYIN dM058_NYAN dM170_NYUN dM098_NYEN dM060_NYON =1E8C7 cct_cu dcn day dbv dca
    dga dbx dbt ddo cdl_ds_TEENS eTENS eHUNDREDS enq ekc_nq ebb_nq esb =1E900 aADLAM_ae_ac_ALIF
    dDAALI dLAAM dMIIM dBA dSINNYIIYHE dPE dBHE dRA dE dFA dI dO dpt dYHE dub dqv dzb dYA dU dJIIM
    dCHI dHA dQAAF dGA dlp dTU dNHA dVA dlu dGBE dZAL dKPO dkx baf_ac_ALIF dDAALI dLAAM dMIIM dBA
    dSINNYIIYHE dPE dBHE dRA dE dFA dI dO dpt dYHE dub dqv dzb dYA dU dJIIM dCHI dHA dQAAF dGA dlp
    dTU dNHA dVA dlu dGBE dZAL dKPO dkx bALIF_xj bcp_xj bss_bl bid bfs_ez bGEMINATE_fs_ez bku
    bzi_bl =1E950 bct_fb ccu ccn cay cbv cca cga cbx cbt cdo =1E95E bar_dy_bl cff_bl =1EC71
    aINDIC_SIYAQ_ds_cu dcn day dbv dca dga dbx dbt ddo dkc dfn djp dog dir doy dfh dmq dgc dcu_bb
    dcn_bb day_bb dbv_bb dca_bb dga_bb dbx_bb dbt_bb ddo_bb dcu_bc dcn_bc day_bc dbv_bc dca_bc
    dga_bc dbx_bc dbt_bc ddo_bc dkc_bc dfn_bc djp_bc dog_bc dir_bc doy_bc dfh_bc dmq_bc dgc_bc
    dLAKH dLAKHAN cLAKH_bl cds_KAROR dKARORAN dPREFIXED_cu ecn eay ebv eca ega ebx ebt edo
    cPLACEHOLDER chs_cu_fl edj day_jn cRUPEE_bl cds_fr_cu ecn ekc_bc cfr_LAKH_bl =1ED01
    aOTTOMAN_SIYAQ_ds_cu dcn day dbv dca dga dbx dbt ddo dkc dfn djp dog dir doy dfh dmq dgc dcu_bb
    dcn_bb day_bb dbv_bb dca_bb dga_bb dbx_bb dbt_bb ddo_bb dcu_bc dcn_bc day_bc dbv_bc dca_bc
    dga_bc dbx_bc dbt_bc ddo_bc dkc_bc dfn_bc djp_bc dog_bc dir_bc doy_bc dfh_bc dmq_bc dgc_bc
    cMARRATAN cfr_ds_cn eay ebv eca ega ebx ebt edo ekc ebv_bb ega_bb ecn_bc ekc_bc chs_cu_dj
    eSIXTH =1EE00 ako_mu_ef cBEH cfk cDAL =1EE05 cub cZAIN cje cTAH chn czb cud ccx cki con cwl
    cFEH cSAD cQAF cyb cnd cTEH cTHEH cie cTHAL cDAD cZAH cox clf_BEH dki dFEH dQAF =1EE21 car_BEH
    dfk =1EE24 dHEH =1EE27 dje =1EE29 dhn dzb dud dcx dki don dwl dFEH dSAD dQAF =1EE34 dnd dTEH
    dTHEH die =1EE39 dDAD =1EE3B dox =1EE42 cTAILED_fk =1EE47 dje =1EE49 dhn =1EE4B dud =1EE4D dki
    don dwl =1EE51 dSAD dQAF =1EE54 dnd =1EE57 die =1EE59 dDAD =1EE5B dox =1EE5D dlf_ki =1EE5F eQAF
    =1EE61 cSTRETCHED_BEH dfk =1EE64 dHEH =1EE67 dje dTAH dhn dzb =1EE6C dcx dki don dwl dFEH dSAD
    dQAF =1EE74 dnd dTEH dTHEH die =1EE79 dDAD dZAH dox dlf_BEH =1EE7E eFEH =1EE80 cLOOPED_ef dBEH
    dfk dDAL dHEH dub dZAIN dje dTAH dhn =1EE8B dud dcx dki don dwl dFEH dSAD dQAF dyb dnd dTEH
    dTHEH die dTHAL dDAD dZAH dox =1EEA1 chh_BEH dfk dDAL =1EEA5 dub dZAIN dje dTAH dhn =1EEAB dud
    dcx dki don dwl dFEH dSAD dQAF dyb dnd dTEH dTHEH die dTHAL dDAD dZAH dox =1EEF0
    cdq_cx_ad_je_ad_TATWEEL dje_ad_DAL =1F000 aMAHJONG_TILE_he_WIND cha_WIND cig_WIND cgl_WIND
    cRED_xa cGREEN_xa cbe_xa ccu_OF_kz ccn_OF_kz cay_OF_kz cbv_OF_kz cca_OF_kz cga_OF_kz cbx_OF_kz
    cbt_OF_kz cdo_OF_kz ccu_OF_qy ccn_OF_qy cay_OF_qy cbv_OF_qy cca_OF_qy cga_OF_qy cbx_OF_qy
    cbt_OF_qy cdo_OF_qy ccu_OF_ls ccn_OF_ls cay_OF_ls cbv_OF_ls cca_OF_ls cga_OF_ls cbx_OF_ls
    cbt_OF_ls cdo_OF_ls cPLUM cORCHID cBAMBOO cCHRYSANTHEMUM cSPRING cSUMMER cAUTUMN cWINTER cJOKER
    cBACK =1F030 aDOMINO_TILE_au_BACK cHORIZONTAL-00-00 cHORIZONTAL-00-01 cHORIZONTAL-00-02
    cHORIZONTAL-00-03 cHORIZONTAL-00-04 cHORIZONTAL-00-05 cHORIZONTAL-00-06 cHORIZONTAL-01-00
    cHORIZONTAL-01-01 cHORIZONTAL-01-02 cHORIZONTAL-01-03 cHORIZONTAL-01-04 cHORIZONTAL-01-05
    cHORIZONTAL-01-06 cHORIZONTAL-02-00 cHORIZONTAL-02-01 cHORIZONTAL-02-02 cHORIZONTAL-02-03
    cHORIZONTAL-02-04 cHORIZONTAL-02-05 cHORIZONTAL-02-06 cHORIZONTAL-03-00 cHORIZONTAL-03-01
    cHORIZONTAL-03-02 cHORIZONTAL-03-03 cHORIZONTAL-03-04 cHORIZONTAL-03-05 cHORIZONTAL-03-06
    cHORIZONTAL-04-00 cHORIZONTAL-04-01 cHORIZONTAL-04-02 cHORIZONTAL-04-03 cHORIZONTAL-04-04
    cHORIZONTAL-04-05 cHORIZONTAL-04-06 cHORIZONTAL-05-00 cHORIZONTAL-05-01 cHORIZONTAL-05-02
    cHORIZONTAL-05-03 cHORIZONTAL-05-04 cHORIZONTAL-05-05 cHORIZONTAL-05-06 cHORIZONTAL-06-00
    cHORIZONTAL-06-01 cHORIZONTAL-06-02 cHORIZONTAL-06-03 cHORIZONTAL-06-04 cHORIZONTAL-06-05
    cHORIZONTAL-06-06 cap_BACK cVERTICAL-00-00 cVERTICAL-00-01 cVERTICAL-00-02 cVERTICAL-00-03
    cVERTICAL-00-04 cVERTICAL-00-05 cVERTICAL-00-06 cVERTICAL-01-00 cVERTICAL-01-01 cVERTICAL-01-02
    cVERTICAL-01-03 cVERTICAL-01-04 cVERTICAL-01-05 cVERTICAL-01-06 cVERTICAL-02-00 cVERTICAL-02-01
    cVERTICAL-02-02 cVERTICAL-02-03 cVERTICAL-02-04 cVERTICAL-02-05 cVERTICAL-02-06 cVERTICAL-03-00
    cVERTICAL-03-01 cVERTICAL-03-02 cVERTICAL-03-03 cVERTICAL-03-04 cVERTICAL-03-05 cVERTICAL-03-06
    cVERTICAL-04-00 cVERTICAL-04-01 cVERTICAL-04-02 cVERTICAL-04-03 cVERTICAL-04-04 cVERTICAL-04-05
    cVERTICAL-04-06 cVERTICAL-05-00 cVERTICAL-05-01 cVERTICAL-05-02 cVERTICAL-05-03 cVERTICAL-05-04
    cVERTICAL-05-05 cVERTICAL-05-06 cVERTICAL-06-00 cVERTICAL-06-01 cVERTICAL-06-02 cVERTICAL-06-03
    cVERTICAL-06-04 cVERTICAL-06-05 cVERTICAL-06-06 =1F0A0 aPLAYING_CARD_BACK cACE_OF_np ccn_OF_np
    cay_OF_np cbv_OF_np cca_OF_np cga_OF_np cbx_OF_np cbt_OF_np cdo_OF_np ckc_OF_np cJACK_OF_np
    chw_OF_np cqn_OF_np cux_OF_np =1F0B1 cACE_OF_lj ccn_OF_lj cay_OF_lj cbv_OF_lj cca_OF_lj
    cga_OF_lj cbx_OF_lj cbt_OF_lj cdo_OF_lj ckc_OF_lj cJACK_OF_lj chw_OF_lj cqn_OF_lj cux_OF_lj
    cRED_JOKER =1F0C1 cACE_OF_jx ccn_OF_jx cay_OF_jx cbv_OF_jx cca_OF_jx cga_OF_jx cbx_OF_jx
    cbt_OF_jx cdo_OF_jx ckc_OF_jx cJACK_OF_jx chw_OF_jx cqn_OF_jx cux_OF_jx caz_JOKER =1F0D1
    cACE_OF_ru ccn_OF_ru cay_OF_ru cbv_OF_ru cca_OF_ru cga_OF_ru cbx_OF_ru cbt_OF_ru cdo_OF_ru
    ckc_OF_ru cJACK_OF_ru chw_OF_ru cqn_OF_ru cux_OF_ru cbe_JOKER cFOOL cTRUMP-1 cTRUMP-2 cTRUMP-3
    cTRUMP-4 cTRUMP-5 cTRUMP-6 cTRUMP-7 cTRUMP-8 cTRUMP-9 cTRUMP-10 cTRUMP-11 cTRUMP-12 cTRUMP-13
    cTRUMP-14 cTRUMP-15 cTRUMP-16 cTRUMP-17 cTRUMP-18 cTRUMP-19 cTRUMP-20 cTRUMP-21 =1F100
    act_fb_ii_gg cew bcu_ew bcn_ew bay_ew bbv_ew bca_ew bga_ew bbx_ew bbt_ew bdo_ew
    aDINGBAT_dm_eu_ct_fb biz_dm_eu_ct_fb adm_fb_ad_qp ben_ag bDOLLAR_am_ad_OVERLAID_pk
    arq_fu_ae_ac_A eB eC eD eE eF eG eH eI eJ eK eL eM eN eO eP eQ eR eS eT eU eV eW eX eY eZ
    aif_ld_BRACKETED_fu_ae_ac_S adm_rn_fu_ae_ac_C fR bCD bWZ aCOPYLEFT_aw afe_fu_ae_ac_A eB eC eD
    eE eF eG eH eI eJ eK eL eM eN eO eP eQ eR eS eT eU eV eW eX eY eZ bHV bMV bSD bSS bPPV bWC
    aiz_dm_fu_ae_ac_A fB fC fD fE fF fG fH fI fJ fK fL fM fN fO fP fQ fR fS fT fU fV fW fX fY fZ
    aij_MC_am bMD_am bMR_am adm_CC bC_ad_OVERLAID_pk bHUMAN_FIGURE aiz_fe_fu_ae_ac_A fB fC fD fE fF
    fG fH fI fJ fK fL fM fN fO fP fQ fR fS fT fU fV fW fX fY fZ alt_iz_fe_fu_ae_ac_P aiz_fe_IC cPA
    cSA cAB cWC abp_DJ afe_CL bCOOL bFREE bID bNEW bNG bOK bSOS bUP_ad_dy_bl bVS bay_D
    bSECOND_SCREEN bcn_K bbv_K bbt_K bca_tu_cu bbx_tu_cu bTWENTY-TWO_tu_cn boy_P bcu_bb_fn_P
    bfu_af_ac_D bHC bHDR bHI-RES bLOSSLESS bSHV bUHD bVOD aMASK_WORK_aw =1F1E6 aREGIONAL_nm_aw_ac_A
    eB eC eD eE eF eG eH eI eJ eK eL eM eN eO eP eQ eR eS eT eU eV eW eX eY eZ abp_ut_HOKA
    afe_lo_KOKO cSA =1F210 bCJK_UNIFIED_IDEOGRAPH-624B dIDEOGRAPH-5B57 dIDEOGRAPH-53CC blo_DE
    bCJK_UNIFIED_IDEOGRAPH-4E8C dIDEOGRAPH-591A dIDEOGRAPH-89E3 dIDEOGRAPH-5929 dIDEOGRAPH-4EA4
    dIDEOGRAPH-6620 dIDEOGRAPH-7121 dIDEOGRAPH-6599 dIDEOGRAPH-524D dIDEOGRAPH-5F8C dIDEOGRAPH-518D
    dIDEOGRAPH-65B0 dIDEOGRAPH-521D dIDEOGRAPH-7D42 dIDEOGRAPH-751F dIDEOGRAPH-8CA9 dIDEOGRAPH-58F0
    dIDEOGRAPH-5439 dIDEOGRAPH-6F14 dIDEOGRAPH-6295 dIDEOGRAPH-6355 dIDEOGRAPH-4E00 dIDEOGRAPH-4E09
    dIDEOGRAPH-904A dIDEOGRAPH-5DE6 dIDEOGRAPH-4E2D dIDEOGRAPH-53F3 dIDEOGRAPH-6307 dIDEOGRAPH-8D70
    dIDEOGRAPH-6253 dIDEOGRAPH-7981 dIDEOGRAPH-7A7A dIDEOGRAPH-5408 dIDEOGRAPH-6E80 dIDEOGRAPH-6709
    dIDEOGRAPH-6708 dIDEOGRAPH-7533 dIDEOGRAPH-5272 dIDEOGRAPH-55B6 dIDEOGRAPH-914D =1F240
    aif_ld_BRACKETED_CJK_UNIFIED_IDEOGRAPH-672C fIDEOGRAPH-4E09 fIDEOGRAPH-4E8C fIDEOGRAPH-5B89
    fIDEOGRAPH-70B9 fIDEOGRAPH-6253 fIDEOGRAPH-76D7 fIDEOGRAPH-52DD fIDEOGRAPH-6557 =1F250
    adm_IDEOGRAPH_ADVANTAGE cACCEPT =1F260 apg_aw_tq_FU dLU dSHOU dXI dSHUANGXI dCAI =1F300
    aCYCLONE aFOGGY ago_UMBRELLA aNIGHT_ad_STARS aSUNRISE_dz_MOUNTAINS b aCITYSCAPE_AT_DUSK
    aSUNSET_dz_BUILDINGS aRAINBOW aBRIDGE_AT_NIGHT atw_rs aVOLCANO aMILKY_WAY
    arv_GLOBE_EUROPE-AFRICA cAMERICAS cASIA-AUSTRALIA aGLOBE_ad_MERIDIANS aNEW_os_aw
    aWAXING_ul_os_aw aFIRST_fl_os_aw aWAXING_GIBBOUS_os_aw aii_os_aw aWANING_GIBBOUS_os_aw
    aLAST_fl_os_aw aWANING_ul_os_aw aul_os aNEW_os_ad_du aFIRST_fl_os_ad_du aLAST_fl_os_ad_du
    aii_os_ad_du aSUN_ad_du aGLOWING_hm aSHOOTING_hm aTHERMOMETER aaz_DROPLET abe_SUN cad_af_CLOUD
    cBEHIND_CLOUD ead_RAIN aCLOUD_ad_RAIN cSNOW cLIGHTNING cTORNADO aFOG aWIND_BLOWING_du aHOT_DOG
    aTACO aBURRITO aCHESTNUT aSEEDLING aEVERGREEN_TREE aDECIDUOUS_TREE aPALM_TREE aCACTUS
    aHOT_PEPPER aTULIP aCHERRY_BLOSSOM aROSE aHIBISCUS aSUNFLOWER aBLOSSOM aEAR_OF_MAIZE cRICE
    aHERB abv_ro_CLOVER aMAPLE_ro aFALLEN_ro aro_FLUTTERING_IN_WIND aMUSHROOM aTOMATO aAUBERGINE
    aGRAPES aMELON aWATERMELON aTANGERINE aLEMON aBANANA aPINEAPPLE aRED_APPLE aGREEN_APPLE aPEAR
    aPEACH aCHERRIES aSTRAWBERRY aHAMBURGER aSLICE_OF_PIZZA aMEAT_ON_BONE aPOULTRY_LEG
    aRICE_CRACKER bBALL aCOOKED_RICE aCURRY_bk_RICE aSTEAMING_BOWL aSPAGHETTI aBREAD aFRENCH_FRIES
    aROASTED_SWEET_POTATO aDANGO aODEN aSUSHI aFRIED_SHRIMP aFISH_CAKE_ad_SWIRL_DESIGN
    aSOFT_ICE_CREAM aSHAVED_ICE aICE_CREAM aDOUGHNUT aCOOKIE aCHOCOLATE_gh aCANDY aLOLLIPOP
    aCUSTARD aHONEY_POT aSHORTCAKE aBENTO_BOX aPOT_OF_FOOD aCOOKING aFORK_bk_KNIFE
    aTEACUP_WITHOUT_HANDLE aSAKE_BOTTLE_bk_CUP aWINE_GLASS aCOCKTAIL_GLASS aTROPICAL_DRINK
    aBEER_MUG aCLINKING_BEER_MUGS aBABY_BOTTLE aFORK_bk_KNIFE_ad_PLATE aBOTTLE_ad_POPPING_CORK
    aPOPCORN aRIBBON aWRAPPED_PRESENT aBIRTHDAY_CAKE aJACK-O-LANTERN aCHRISTMAS_TREE
    aFATHER_CHRISTMAS aFIREWORKS aFIREWORK_SPARKLER aBALLOON aPARTY_POPPER aCONFETTI_BALL
    aTANABATA_TREE alt_FLAGS aPINE_DECORATION arz_DOLLS aCARP_STREAMER aWIND_CHIME
    aos_VIEWING_CEREMONY aSCHOOL_SATCHEL aGRADUATION_CAP ajr_ad_TIP_ON_ua_ax aBOUQUET_OF_FLOWERS
    aMILITARY_MEDAL aREMINDER_RIBBON alx_zd_ad_JACKS aSTUDIO_MICROPHONE aLEVEL_SLIDER ara_KNOBS
    aBEAMED_ASCENDING_lx_NOTES bDESCENDING_lx_NOTES aFILM_FRAMES aADMISSION_TICKETS aCAROUSEL_HORSE
    aFERRIS_WHEEL aROLLER_COASTER aFISHING_POLE_bk_FISH aMICROPHONE aMOVIE_CAMERA aCINEMA
    aHEADPHONE aARTIST_PALETTE asg_HAT aCIRCUS_TENT aTICKET aCLAPPER_BOARD aPERFORMING_ARTS
    aVIDEO_GAME aDIRECT_HIT aSLOT_MACHINE aBILLIARDS aGAME_DIE aBOWLING aFLOWER_PLAYING_CARDS
    alx_ta akh_lx_NOTES aSAXOPHONE aGUITAR alx_zd aTRUMPET aVIOLIN alx_SCORE aRUNNING_SHIRT_ad_SASH
    aTENNIS_RACQUET_bk_BALL aSKI_bk_SKI_BOOT aBASKETBALL_bk_HOOP aCHEQUERED_FLAG aSNOWBOARDER
    aRUNNER aSURFER aSPORTS_MEDAL aTROPHY aHORSE_RACING aAMERICAN_FOOTBALL aRUGBY_FOOTBALL aSWIMMER
    aWEIGHT_LIFTER aGOLFER aRACING_MOTORCYCLE bCAR aCRICKET_BAT_bk_BALL aVOLLEYBALL
    aFIELD_HOCKEY_STICK_bk_BALL aICE_HOCKEY_STICK_bk_PUCK aTABLE_TENNIS_PADDLE_bk_BALL
    aSNOW_CAPPED_qf aCAMPING aBEACH_ad_UMBRELLA ayg_yj aHOUSE_BUILDINGS aCITYSCAPE
    aDERELICT_HOUSE_yg aCLASSICAL_yg aDESERT bISLAND aNATIONAL_PARK aSTADIUM aHOUSE_yg bad_GARDEN
    aOFFICE_yg arz_POST_OFFICE aEUROPEAN_POST_OFFICE aHOSPITAL aBANK aAUTOMATED_TELLER_MACHINE
    aHOTEL aLOVE_HOTEL aCONVENIENCE_STORE aSCHOOL aDEPARTMENT_STORE aFACTORY aIZAKAYA_LANTERN
    arz_CASTLE aEUROPEAN_CASTLE abe_PENNANT aaz_PENNANT aWAVING_be_FLAG baz_FLAG aROSETTE
    aaz_ROSETTE aLABEL aBADMINTON_RACQUET_bk_SHUTTLECOCK aBOW_bk_ag aAMPHORA
    aEMOJI_ez_FITZPATRICK_TYPE-1-2 dTYPE-3 dTYPE-4 dTYPE-5 dTYPE-6 aRAT aMOUSE aOX atw_BUFFALO aCOW
    aTIGER aLEOPARD aRABBIT aCAT axa aCROCODILE aWHALE aSNAIL aSNAKE aHORSE aRAM aGOAT aSHEEP
    aMONKEY aROOSTER aCHICKEN aDOG aPIG aBOAR aELEPHANT aOCTOPUS aSPIRAL_ld aBUG aANT aHONEYBEE
    aLADY_BEETLE aFISH aTROPICAL_FISH aBLOWFISH aTURTLE aHATCHING_CHICK aBABY_CHICK
    aFRONT-FACING_BABY_CHICK aBIRD aPENGUIN aKOALA aPOODLE aDROMEDARY_CAMEL aBACTRIAN_CAMEL
    aDOLPHIN aMOUSE_du aCOW_du aTIGER_du aRABBIT_du aCAT_du axa_du aSPOUTING_WHALE aHORSE_du
    aMONKEY_du aDOG_du aPIG_du aFROG_du aHAMSTER_du aWOLF_du aBEAR_du aPANDA_du aPIG_NOSE
    aPAW_PRINTS aCHIPMUNK arx aEYE aEAR aNOSE amh aTONGUE abe_UP_cd_pp_ck bdi_cd_pp_ck bax_cd_pp_ck
    bak_cd_pp_ck aFISTED_mj_am aWAVING_mj_am aOK_mj_am aTHUMBS_UP_am bdi_am aCLAPPING_HANDS_am
    afj_HANDS_am aCROWN aWOMANS_HAT aEYEGLASSES aNECKTIE aT-SHIRT aJEANS aDRESS aKIMONO aBIKINI
    aWOMANS_CLOTHES aPURSE aHANDBAG aPOUCH aMANS_SHOE aATHLETIC_SHOE aHIGH-HEELED_SHOE
    aWOMANS_SANDAL bBOOTS aFOOTPRINTS aBUST_IN_xt aBUSTS_IN_xt aBOY aGIRL aMAN aWOMAN aFAMILY
    aMAN_bk_WOMAN_yx_HANDS acn_MEN_yx_HANDS bWOMEN_yx_HANDS aPOLICE_OFFICER aWOMAN_ad_BUNNY_EARS
    aBRIDE_ad_VEIL ame_ad_BLOND_HAIR aMAN_ad_GUA_PI_MAO cTURBAN aOLDER_MAN bWOMAN aBABY ayj_WORKER
    aPRINCESS arz_OGRE bGOBLIN aGHOST aBABY_ANGEL aEXTRATERRESTRIAL_ALIEN aALIEN_MONSTER aIMP
    aSKULL aoh_DESK_me aGUARDSMAN aDANCER aLIPSTICK aNAIL_POLISH adu_MASSAGE aHAIRCUT aBARBER_POLE
    aSYRINGE aPILL aKISS_bl aLOVE_ac ael aGEM_STONE aKISS aBOUQUET aCOUPLE_ad_jr aWEDDING
    aBEATING_jr aBROKEN_jr acn_lj aSPARKLING_jr aGROWING_jr ajr_ad_ag aBLUE_jr aGREEN_jr aYELLOW_jr
    aPURPLE_jr ajr_ad_RIBBON aREVOLVING_lj ajr_DECORATION aem_SHAPE_ad_A_dc_kp aELECTRIC_co_BULB
    aANGER_aw aBOMB aSLEEPING_aw aCOLLISION_aw aSPLASHING_SWEAT_aw aDROPLET ajw_aw aPILE_OF_POO
    aFLEXED_BICEPS aDIZZY_aw aSPEECH_BALLOON aTHOUGHT_BALLOON abe_FLOWER abb_POINTS_aw aMONEY_BAG
    aym_EXCHANGE abn_DOLLAR_am aCREDIT_CARD aBANKNOTE_ad_YEN_am cDOLLAR_am cEURO_am cPOUND_am
    aMONEY_ad_WINGS aCHART_ad_br_TREND_bk_YEN_am aSEAT aPERSONAL_COMPUTER aBRIEFCASE aMINIDISC
    aFLOPPY_DISK aOPTICAL_DISC aDVD aFILE_FOLDER afj_FILE_FOLDER aPAGE_ad_rk bFACING_UP aCALENDAR
    aTEAR-OFF_CALENDAR aCARD_ck aCHART_ad_br_TREND cba_TREND agh_CHART aCLIPBOARD aPUSHPIN
    avk_PUSHPIN aPAPERCLIP agm_RULER afc_RULER aBOOKMARK_TABS aLEDGER aNOTEBOOK
    bad_DECORATIVE_COVER ago_BOOK afj_BOOK aGREEN_BOOK aBLUE_BOOK aORANGE_BOOK aBOOKS aNAME_BADGE
    aSCROLL aMEMO ajz_RECEIVER aPAGER aFAX_MACHINE aSATELLITE_ANTENNA aPUBLIC_ADDRESS_LOUDSPEAKER
    aCHEERING_MEGAPHONE aOUTBOX_TRAY aINBOX_TRAY aPACKAGE aE-MAIL_aw aINCOMING_of aof_ad_ba_ag_al
    ago_MAILBOX_ad_LOWERED_FLAG dij_FLAG afj_MAILBOX_ad_ij_FLAG dLOWERED_FLAG aPOSTBOX aPOSTAL_lk
    aNEWSPAPER aMOBILE_PHONE cad_aj_ag_AT_ax aVIBRATION_MODE aMOBILE_PHONE_OFF aNO_MOBILE_PHONES
    aANTENNA_ad_BARS aCAMERA bad_FLASH aVIDEO_CAMERA aTELEVISION aRADIO aVIDEOCASSETTE
    aFILM_PROJECTOR aPORTABLE_STEREO aPRAYER_BEADS aTWISTED_aj_mb ajd_aj_bk_ao_fj_bq_mb
    had_dm_cu_hq bba_bk_br_fj_bq_mb aen_ba_bk_br_fj_bq_mb aiy_BRIGHTNESS_aw afy_BRIGHTNESS_aw
    aSPEAKER_ad_sn_av b bad_cu_oz_rs cay_oz_WAVES aBATTERY aELECTRIC_PLUG aec_MAGNIFYING_GLASS
    add_MAGNIFYING_GLASS aLOCK_ad_INK_PEN ago_LOCK_ad_KEY aKEY aLOCK afj_LOCK aBELL bad_sn_av
    aBOOKMARK aLINK_aw aRADIO_BUTTON aBACK_ad_ao_ag_al auc_ad_ao_ag_al aON_ad_dy_bl_ad_ax_ak_ag_al
    aSOON_ad_aj_ag_al asg_ad_br_ag_al aNO_cu_UNDER_oe_aw aKEYCAP_kc aINPUT_aw_tq_fu_ae_LETTERS
    eaf_LETTERS dNUMBERS dSYMBOLS dfu_LETTERS aFIRE aELECTRIC_TORCH aWRENCH aHAMMER aNUT_bk_BOLT
    aHOCHO aPISTOL aMICROSCOPE aTELESCOPE aCRYSTAL_BALL aga_fd_hm_ad_bd_dc arz_aw_tq_BEGINNER
    aTRIDENT_EMBLEM aaz_bp_BUTTON abe_bp_BUTTON aeh_RED_bq bBLUE_bq bORANGE_em bBLUE_em
    aaf_ORANGE_em bBLUE_em ahf_RED_bi agx_RED_bi ahf_af_RED_bi agx_af_RED_bi acw_ak_kk_be_bq
    adt_ak_kk_be_bq adm_gu_POMMEE agu_POMMEE_ad_HALF-CIRCLE_as c arf_ax_tg_ad_ay_dw bak_tg_ad_ay_dw
    aaw_tq_MARKS_CHAPTER abe_fu_gu abn_fu_gu aCELTIC_gu aOM_aw aDOVE_OF_PEACE aKAABA aMOSQUE
    aSYNAGOGUE aMENORAH_ad_do_BRANCHES aBOWL_OF_HYGIEIA aCLOCK_du_cu_qj ccn_qj cay_qj cbv_qj cca_qj
    cga_qj cbx_qj cbt_qj cdo_qj ckc_qj cpw_qj cns_qj cONE-THIRTY cTWO-THIRTY cTHREE-THIRTY
    cFOUR-THIRTY cFIVE-THIRTY cSIX-THIRTY cSEVEN-THIRTY cEIGHT-THIRTY cNINE-THIRTY cTEN-THIRTY
    cELEVEN-THIRTY cTWELVE-THIRTY aak_SPEAKER cad_cu_oz_rs day_oz_WAVES aBULLHORN bad_oz_WAVES
    aRINGING_BELL aBOOK aCANDLE aMANTELPIECE_CLOCK aaz_SKULL_bk_CROSSBONES aNO_PIRACY aHOLE
    aMAN_IN_BUSINESS_SUIT_LEVITATING aSLEUTH_OR_SPY aDARK_SUNGLASSES aSPIDER bWEB aJOYSTICK
    aMAN_DANCING aax_mj_jz_RECEIVER ajz_RECEIVER_ad_PAGE aak_mj_jz_RECEIVER abe_TOUCHTONE_jz
    aaz_TOUCHTONE_jz ajz_ON_sg_OF_MODEM aCLAMSHELL_MOBILE_PHONE aBACK_OF_of aSTAMPED_of
    aof_ad_LIGHTNING aFLYING_of aPEN_dz_STAMPED_of aLINKED_PAPERCLIPS aaz_PUSHPIN acw_ax_PENCIL
    cBALLPOINT_PEN cFOUNTAIN_PEN cPAINTBRUSH cCRAYON aax_WRITING_mj acj_OK_mj_am
    aij_mj_ad_hj_SPLAYED abs_ij_mj_ad_hj_SPLAYED bTHUMBS_UP_am cdi_am bVICTORY_mj bmj_ad_bd_xd_pz
    aij_mj_ad_PART_js_bd_bk_el_hj abe_di_cd_ax_mj_ck aoo_be_ax_cd_ck cak_cd_ck baz_ax_cd_ck
    cak_cd_ck aaz_ax_cd_pp_ck bak_cd_pp_ck aoo_be_UP_cd_ck cdi_cd_ck baz_UP_cd_ck cdi_cd_ck
    aaz_UP_cd_pp_ck bdi_cd_pp_ck bjr aDESKTOP_COMPUTER azd_bk_MOUSE aay_NETWORKED_COMPUTERS
    aPRINTER aPOCKET_CALCULATOR aaz_HARD_ld_FLOPPY_DISK abe_HARD_ld_FLOPPY_DISK
    aSOFT_ld_FLOPPY_DISK aTAPE_CARTRIDGE aWIRED_zd acu_BUTTON_MOUSE acn_BUTTON_MOUSE
    aay_BUTTON_MOUSE aTRACKBALL aol_PERSONAL_COMPUTER aHARD_DISK aSCREEN aPRINTER_ICON aFAX_ICON
    aOPTICAL_DISC_ICON aDOCUMENT_ad_TEXT dbk_PICTURE cPICTURE aFRAME_ad_PICTURE cTILES cAN_X
    aaz_FOLDER aFOLDER afj_FOLDER aCARD_ck_DIVIDERS bFILE_BOX aFILE_CABINET aEMPTY_ta cPAGE cPAD
    ata bPAGE bPAD aEMPTY_DOCUMENT bPAGE bPAGES aDOCUMENT aPAGE aPAGES aWASTEBASKET aSPIRAL_ta_PAD
    bCALENDAR_PAD aDESKTOP_WINDOW aMINIMIZE aMAXIMIZE aOVERLAP ajd_ak_bk_ax_tg_mb asn_X
    aINCREASE_FONT_SIZE_aw aDECREASE_FONT_SIZE_aw aCOMPRESSION aol_KEY aROLLED-UP_NEWSPAPER
    aPAGE_ad_dm_TEXT aSTOCK_CHART aDAGGER_KNIFE aLIPS aSPEAKING_ty_IN_xt aay_RAYS_al cas cax cak
    aax_SPEECH_uj aak_SPEECH_uj acn_SPEECH_BUBBLES aay_SPEECH_BUBBLES aax_THOUGHT_uj aak_THOUGHT_uj
    aax_ANGER_uj aak_ANGER_uj aMOOD_uj aLIGHTNING_MOOD_uj c aBALLOT_BOX_ad_BALLOT bio_X
    bBOX_ad_io_X bnc_io_X bBOX_ad_nc_io_X aco_uk_bl aBALLOT_BOX_ad_nc_uk aWORLD_MAP aMOUNT_FUJI
    aTOKYO_TOWER aSTATUE_OF_LIBERTY axt_OF_JAPAN aMOYAI aGRINNING_du cad_ju_rx adu_ad_TEARS_OF_JOY
    aju_du_ad_fj_mh fbk_ju_rx gCOLD_SWEAT gTIGHTLY-CLOSED_rx dHALO dHORNS aWINKING_du
    aju_du_ad_ju_rx adu_SAVOURING_DELICIOUS_FOOD aRELIEVED_du aju_du_ad_HEART-SHAPED_rx dSUNGLASSES
    aSMIRKING_du ahx_du aEXPRESSIONLESS_du aUNAMUSED_du adu_ad_COLD_SWEAT aPENSIVE_du aCONFUSED_du
    aCONFOUNDED_du aKISSING_du adu_THROWING_A_KISS aKISSING_du_ad_ju_rx dgo_rx
    adu_ad_STUCK-OUT_TONGUE ebk_WINKING_EYE fTIGHTLY-CLOSED_rx aDISAPPOINTED_du aWORRIED_du
    aANGRY_du aPOUTING_du aCRYING_du aPERSEVERING_du adu_ad_LOOK_OF_TRIUMPH
    aDISAPPOINTED_BUT_RELIEVED_du aFROWNING_du_ad_fj_mh aANGUISHED_du aFEARFUL_du aWEARY_du
    aSLEEPY_du aTIRED_du aGRIMACING_du aLOUDLY_CRYING_du adu_ad_fj_mh aHUSHED_du
    adu_ad_fj_mh_bk_COLD_SWEAT bSCREAMING_IN_FEAR aASTONISHED_du aFLUSHED_du aSLEEPING_du aDIZZY_du
    adu_WITHOUT_mh bad_MEDICAL_MASK aGRINNING_CAT_du_ad_ju_rx aCAT_du_ad_TEARS_OF_JOY
    aju_CAT_du_ad_fj_mh eHEART-SHAPED_rx aCAT_du_ad_WRY_SMILE aKISSING_CAT_du_ad_go_rx
    aPOUTING_CAT_du aCRYING_CAT_du aWEARY_CAT_du aSLIGHTLY_FROWNING_du bju_du aUPSIDE-DOWN_du
    adu_ad_ROLLING_rx cNO_GOOD_GESTURE cOK_GESTURE ame_BOWING_DEEPLY aSEE-NO-EVIL_MONKEY
    aHEAR-NO-EVIL_MONKEY aSPEAK-NO-EVIL_MONKEY aHAPPY_me_RAISING_cu_mj
    ame_RAISING_BOTH_HANDS_IN_CELEBRATION bFROWNING bad_POUTING_du cFOLDED_HANDS agl_ig_cd_ro
    aha_ig_cd_ro agl_he_cd_ro aha_he_cd_ro acj_gl_ig_cd_ro bha_ig_cd_ro bgl_he_cd_ro bha_he_cd_ro
    agl_ig_cd_VINE_ro aha_ig_cd_VINE_ro agl_he_cd_VINE_ro aha_he_cd_VINE_ro abn_gl_ig_cd_VINE_ro
    bha_ig_cd_VINE_ro bgl_he_cd_VINE_ro bha_he_cd_VINE_ro agl_ig_cd_BUD aha_ig_cd_BUD agl_he_cd_BUD
    aha_he_cd_BUD abn_gl_ig_cd_BUD bha_ig_cd_BUD bgl_he_cd_BUD bha_he_cd_BUD aHOLLOW_QUILT_bp_cq
    eIN_az_bp aSOLID_QUILT_bp_cq eIN_az_bp aao_ROCKET abr_ROCKET aaj_ROCKET aba_ROCKET aio_eo_ET_cq
    abn_io_eo_ET_cq aeo_fj_ET_cq abn_eo_fj_ET_cq bng_cq aSWASH_ng_cq aeu_bn_an_cj_ew_ej_bl_cq
    dew_ej_bl_cq ciy_an_ew_ej_bl_cq abn_rc_cq aeu_rc_cq abn_eu_rc_cq anu_bn_hl chy_hl
    aCHECKER_BOARD ahy_CHECKER_BOARD aROCKET aHELICOPTER aSTEAM_LOCOMOTIVE aRAILWAY_CAR
    aHIGH-SPEED_TRAIN cad_nh_NOSE aTRAIN aMETRO aco_RAIL aSTATION aTRAM bCAR aBUS azk_BUS
    aTROLLEYBUS aBUS_gg aMINIBUS aAMBULANCE aFIRE_ENGINE aPOLICE_CAR azk_POLICE_CAR aTAXI azk_TAXI
    aAUTOMOBILE azk_AUTOMOBILE aRECREATIONAL_VEHICLE aDELIVERY_TRUCK aARTICULATED_LORRY aTRACTOR
    aMONORAIL aqf_RAILWAY aSUSPENSION_RAILWAY aqf_CABLEWAY aAERIAL_TRAMWAY aSHIP aROWBOAT
    aSPEEDBOAT aau_TRAFFIC_co aap_TRAFFIC_co ayj_am aPOLICE_CARS_REVOLVING_co afc_FLAG_ON_POST
    aDOOR aNO_ENTRY_am aSMOKING_aw aNO_SMOKING_aw aPUT_LITTER_IN_ITS_PLACE_aw aDO_mw_LITTER_aw
    aPOTABLE_tw_aw aNON-POTABLE_tw_aw aBICYCLE aNO_BICYCLES aBICYCLIST aqf_BICYCLIST aPEDESTRIAN
    aNO_PEDESTRIANS aCHILDREN_es aMENS_aw aWOMENS_aw aRESTROOM aBABY_aw aTOILET atw_CLOSET aSHOWER
    aBATH aBATHTUB aPASSPORT_ra aCUSTOMS aBAGGAGE_CLAIM aax_LUGGAGE abi_ad_pg_yl aPROHIBITED_am
    adm_oh_SOURCE aBOYS_aw aGIRLS_aw aCOUCH_bk_LAMP aSLEEPING_ACCOMMODATION aSHOPPING_BAGS
    aBELLHOP_BELL aBED aPLACE_OF_WORSHIP aOCTAGONAL_am aSHOPPING_TROLLEY aSTUPA aPAGODA
    aHINDU_TEMPLE aHUT aELEVATOR =1F6DD aPLAYGROUND_SLIDE aWHEEL ael_BUOY aHAMMER_bk_WRENCH aSHIELD
    aOIL_DRUM aMOTORWAY aRAILWAY_TRACK aMOTOR_BOAT ahf_MILITARY_rt brt baf_rt aaf_rt
    aNORTHEAST-POINTING_rt art_DEPARTURE bARRIVING =1F6F0 aSATELLITE azk_FIRE_ENGINE
    aDIESEL_LOCOMOTIVE aPASSENGER_SHIP aSCOOTER aMOTOR_SCOOTER aCANOE aSLED aFLYING_SAUCER
    aSKATEBOARD aAUTO_RICKSHAW aPICKUP_TRUCK aROLLER_SKATE =1F700 aALCHEMICAL_aw_tq_QUINTESSENCE
    dAIR dFIRE drv dtw dAQUAFORTIS dAQUA_REGIA eREGIA-2 eVITAE eVITAE-2 dVINEGAR dVINEGAR-2
    dVINEGAR-3 dSULFUR dPHILOSOPHERS_SULFUR daz_SULFUR dMERCURY_we eSUBLIMATE-2 eSUBLIMATE-3
    dCINNABAR dSALT dNITRE dVITRIOL dVITRIOL-2 dROCK_SALT eSALT-2 dGOLD dSILVER dIRON_ORE eORE-2
    dCROCUS_OF_IRON dREGULUS_OF_IRON dCOPPER_ORE dIRON-COPPER_ORE dwe_OF_COPPER dCROCUS_OF_COPPER
    fCOPPER-2 dCOPPER_ANTIMONIATE dSALT_OF_COPPER_ANTIMONIATE dwe_OF_SALT_OF_COPPER dVERDIGRIS
    dTIN_ORE dLEAD_ORE duf_ORE dwe_OF_uf dSALT_OF_uf dwe_OF_SALT_OF_uf dVINEGAR_OF_uf
    dREGULUS_OF_uf fANTIMONY-2 e dREGULUS-2 dREGULUS-3 dREGULUS-4 dALKALI dALKALI-2 dMARCASITE
    dSAL-AMMONIAC dARSENIC dREALGAR dREALGAR-2 dAURIPIGMENT dBISMUTH_ORE dTARTAR dTARTAR-2
    dQUICK_LIME dBORAX dBORAX-2 dBORAX-3 dALUM dOIL dSPIRIT dTINCTURE dGUM dWAX dPOWDER dCALX
    dTUTTY dCAPUT_MORTUUM dSCEPTER_OF_JOVE dCADUCEUS dTRIDENT dSTARRED_TRIDENT dLODESTONE dSOAP
    dURINE dHORSE_DUNG dASHES dPOT_ASHES dBRICK dPOWDERED_BRICK dAMALGAM dSTRATUM_SUPER_STRATUM
    fSTRATUM-2 dSUBLIMATION dPRECIPITATE dDISTILL dDISSOLVE dDISSOLVE-2 dPURIFY dPUTREFACTION
    dCRUCIBLE dCRUCIBLE-2 dCRUCIBLE-3 dCRUCIBLE-4 dCRUCIBLE-5 dALEMBIC dBATH_OF_MARY fVAPOURS
    dRETORT dHOUR dNIGHT dDAY-NIGHT dMONTH ddj_DRAM eOUNCE =1F780 aaz_ec_ISOSCELES_ak_bi
    bhf_ISOSCELES_ak_bi bdd_ISOSCELES_ak_bi bgx_ISOSCELES_ak_bi bSLIGHTLY_af_bq acg_nc_be_bq
    anc_be_bq abn_be_bq anu_bn_be_bq arw_bn_be_bq abe_bq_ni_az_af_bq avk_TARGET aaz_TINY_bp
    bSLIGHTLY_af_bp aco_be_bp acg_be_bp anc_be_bp abn_be_bp anu_bn_be_bp arw_bn_be_bp
    abe_bp_ni_az_nu_af_bp ecg_bp abp_TARGET aaz_TINY_em bnu_af_em bcg_af_em abe_em_ni_az_nu_af_em
    ecg_em aem_TARGET aaz_TINY_lw bnu_af_lw bcg_af_lw abe_lw_ni_az_af_lw aTHIN_kr_gu aco_kr_gu
    acg_kr_gu anc_kr_gu anu_nc_kr_gu bbn_kr_gu arw_bn_kr_gu aTHIN_ob aco_ob acg_ob anc_ob abn_ob
    anu_bn_ob arw_bn_ob aco_ca_le_dk acg_ca_le_dk anc_ca_le_dk abn_ca_le_dk anu_bn_ca_le_dk
    arw_bn_ca_le_dk aco_ga_le_dk acg_ga_le_dk anc_ga_le_dk abn_ga_le_dk anu_bn_ga_le_dk
    arw_bn_ga_le_dk aco_bt_le_dk acg_bt_le_dk anc_bt_le_dk abn_bt_le_dk anu_bn_bt_le_dk
    aco_ay_fd_az_hm acg_ay_fd_az_hm aay_fd_az_hm acg_ay_fd_om_hm aco_bv_fd_az_hm acg_bv_fd_az_hm
    abv_fd_az_hm acg_bv_fd_om_hm ahy_co_bv_fd_om_hm aco_ca_fd_az_hm abn_ca_fd_az_hm acg_ga_fd_az_hm
    abn_ga_fd_az_hm aga_fd_om_hm acg_bt_fd_az_hm abn_bt_fd_az_hm anu_bn_bt_fd_az_hm abn_bt_fd_om_hm
    aco_ns_fd_az_hm abn_ns_fd_az_hm dom_hm adm_bi aiz_dm_bi adm_bp aiz_dm_bp =1F7E0 aeh_ORANGE_bq
    bYELLOW_bq bGREEN_bq bPURPLE_bq bBROWN_bq bRED_bp bBLUE_bp bORANGE_bp bYELLOW_bp bGREEN_bp
    bPURPLE_bp bBROWN_bp =1F7F0 abn_gq_am =1F800 aao_ag_ad_af_bi_bo abr_ag_ad_af_bi_bo
    aaj_ag_ad_af_bi_bo aba_ag_ad_af_bi_bo aao_ag_ad_cg_bi_bo abr_ag_ad_cg_bi_bo aaj_ag_ad_cg_bi_bo
    aba_ag_ad_cg_bi_bo aao_ag_ad_eh_bi_bo abr_ag_ad_eh_bi_bo aaj_ag_ad_eh_bi_bo aba_ag_ad_eh_bi_bo
    =1F810 aao_ag_ad_af_eg_bo abr_ag_ad_af_eg_bo aaj_ag_ad_af_eg_bo aba_ag_ad_af_eg_bo
    aao_ag_ad_eg_bo abr_ag_ad_eg_bo aaj_ag_ad_eg_bo aba_ag_ad_eg_bo abn_ao_ag_ad_eg_bo
    bbr_ag_ad_eg_bo baj_ag_ad_eg_bo bba_ag_ad_eg_bo bao_ag_ad_eh_eg_bo bbr_ag_ad_eh_eg_bo
    baj_ag_ad_eh_eg_bo bba_ag_ad_eh_eg_bo aao_aq_ag_ad_NARROW_lq abr_aq_ag_ad_NARROW_lq
    aaj_aq_ag_ad_NARROW_lq aba_aq_ag_ad_NARROW_lq aao_aq_ag_ad_cg_lq abr_aq_ag_ad_cg_lq
    aaj_aq_ag_ad_cg_lq aba_aq_ag_ad_cg_lq aao_aq_ag_ad_nc_lq abr_aq_ag_ad_nc_lq aaj_aq_ag_ad_nc_lq
    aba_aq_ag_ad_nc_lq aao_aq_ag_ad_bn_lq abr_aq_ag_ad_bn_lq aaj_aq_ag_ad_bn_lq aba_aq_ag_ad_bn_lq
    aao_aq_ag_ad_nu_bn_lq abr_aq_ag_ad_nu_bn_lq aaj_aq_ag_ad_nu_bn_lq aba_aq_ag_ad_nu_bn_lq
    aao_uq_ag abr_uq_ag aaj_uq_ag aba_uq_ag aao_fe_ag abr_fe_ag aaj_fe_ag aba_fe_ag aao_mc_ag
    abr_mc_ag aaj_mc_ag aba_mc_ag aao_bn_mc_ag abr_bn_mc_ag aaj_bn_mc_ag aba_bn_mc_ag aao_bn_ag
    abr_bn_ag aaj_bn_ag aba_bn_ag =1F850 aao_eu_ag abr_eu_ag aaj_eu_ag aba_eu_ag agl_ig_eu_ag
    bhe_eu_ag aha_he_eu_ag big_eu_ag aax_ak_eu_ag aUP_di_eu_ag =1F860 aWIDE-HEADED_ao_co_eq_ag
    bbr_co_eq_ag baj_co_eq_ag bba_co_eq_ag bgl_ig_co_eq_ag che_co_eq_ag bha_he_co_eq_ag
    cig_co_eq_ag bao_eq_ag bbr_eq_ag baj_eq_ag bba_eq_ag bgl_ig_eq_ag che_eq_ag bha_he_eq_ag
    cig_eq_ag bao_cg_eq_ag bbr_cg_eq_ag baj_cg_eq_ag bba_cg_eq_ag bgl_ig_cg_eq_ag che_cg_eq_ag
    bha_he_cg_eq_ag cig_cg_eq_ag bao_bn_eq_ag bbr_bn_eq_ag baj_bn_eq_ag bba_bn_eq_ag
    bgl_ig_bn_eq_ag che_bn_eq_ag bha_he_bn_eq_ag cig_bn_eq_ag bao_nu_bn_eq_ag bbr_nu_bn_eq_ag
    baj_nu_bn_eq_ag bba_nu_bn_eq_ag bgl_ig_nu_bn_eq_ag che_nu_bn_eq_ag bha_he_nu_bn_eq_ag
    cig_nu_bn_eq_ag =1F890 aao_bi_bo abr_bi_bo aaj_bi_bo aba_bi_bo aao_be_ag_WITHIN_bi_bo
    abr_be_ag_WITHIN_bi_bo aaj_be_ag_WITHIN_bi_bo aba_be_ag_WITHIN_bi_bo aao_ag_ad_rf_ia
    abr_ag_ad_rf_ia aaj_ag_ad_rf_ia aba_ag_ad_rf_ia abn_ag_lq_WIDTH_cu ecn_vr ecu_dj ftv
    aao_BOTTOM-SHADED_be_ag aaj_hb_SHADED_be_ag aao_sg_SHADED_be_ag aaj_sg_SHADED_be_ag
    aao_LEFT-SHADED_be_ag aaj_zt_be_ag aao_zt_be_ag aaj_LEFT-SHADED_be_ag aao_BACK-TILTED_kk_be_ag
    aaj_BACK-TILTED_kk_be_ag aao_yu_kk_be_ag aaj_yu_kk_be_ag abe_ag_lq_WIDTH_cu ecn_vr =1F8B0
    aag_cd_br_THEN_gl_ig caj_THEN_CURVING_ha_ig =1F900 adm_gu_FORMEE_ad_bv_dw ecn_dw d
    aax_dj_bq_ad_bv_dw eay_dw ecn_dw edc d aDOWNWARD_FACING_by crf_by cby_ad_dc crf_by_ad_dc
    aPINCHED_hj abe_jr aBROWN_jr aPINCHING_mj aZIPPER-MOUTH_du aMONEY-MOUTH_du adu_ad_THERMOMETER
    aNERD_du aTHINKING_du adu_ad_HEAD-BANDAGE aROBOT_du aHUGGING_du aam_OF_ua_HORNS aCALL_ME_mj
    aij_BACK_OF_mj auz_FIST atf_FIST aHANDSHAKE amj_ad_ck_bk_bd_hj_lt aI_LOVE_YOU_mj_am
    adu_ad_COWBOY_HAT aCLOWN_du aNAUSEATED_du aROLLING_ON_ua_ys_LAUGHING aDROOLING_du aLYING_du
    adu_PALM aSNEEZING_du adu_ad_cu_EYEBROW_ij aGRINNING_du_ad_hm_rx dcu_eh_bk_cu_af_EYE
    adu_ad_xd_COVERING_go_LIPS aSERIOUS_du_ad_SYMBOLS_COVERING_mh aju_du_ad_ju_rx_bk_mj_COVERING_mh
    adu_ad_fj_mh_VOMITING aSHOCKED_du_ad_EXPLODING_ty aPREGNANT_WOMAN aBREAST-FEEDING
    aPALMS_UP_TOGETHER aSELFIE aPRINCE aMAN_IN_TUXEDO aMOTHER_CHRISTMAS aSHRUG ame_DOING_CARTWHEEL
    aJUGGLING aFENCER aMODERN_PENTATHLON aWRESTLERS atw_POLO aHANDBALL aDIVING_MASK aWILTED_FLOWER
    aDRUM_ad_DRUMSTICKS aCLINKING_GLASSES aTUMBLER_GLASS aSPOON aGOAL_NET aRIFLE aFIRST_PLACE_MEDAL
    aSECOND_PLACE_MEDAL atv_PLACE_MEDAL aBOXING_GLOVE aMARTIAL_ARTS_UNIFORM aCURLING_STONE
    aLACROSSE_STICK_bk_BALL aSOFTBALL aFLYING_DISC aCROISSANT aAVOCADO aCUCUMBER aBACON aPOTATO
    aCARROT aBAGUETTE_BREAD aGREEN_SALAD aSHALLOW_PAN_OF_FOOD aSTUFFED_FLATBREAD aEGG
    aGLASS_OF_MILK aPEANUTS aKIWIFRUIT aPANCAKES aDUMPLING aFORTUNE_COOKIE aTAKEOUT_BOX aCHOPSTICKS
    aBOWL_ad_SPOON aCUP_ad_STRAW aCOCONUT aBROCCOLI aPIE aPRETZEL aCUT_OF_MEAT aSANDWICH
    aCANNED_FOOD aLEAFY_GREEN aMANGO aos_CAKE aBAGEL aju_du_ad_ju_rx_bk_ay_lj aYAWNING_du
    aju_du_ad_TEAR adu_ad_PARTY_lk_bk_PARTY_HAT cUNEVEN_rx_bk_WAVY_mh aOVERHEATED_du aFREEZING_du
    aNINJA aDISGUISED_du adu_yx_BACK_TEARS bad_PLEADING_rx aSARI aLAB_COAT aGOGGLES aHIKING_BOOT
    aFLAT_SHOE aCRAB aLION_du aSCORPION aTURKEY aUNICORN_du aEAGLE aDUCK aBAT aSHARK aOWL aFOX_du
    aBUTTERFLY aDEER aGORILLA aLIZARD aRHINOCEROS aSHRIMP aSQUID aGIRAFFE_du aZEBRA_du aHEDGEHOG
    aSAUROPOD aT-REX aCRICKET aKANGAROO aLLAMA aPEACOCK aHIPPOPOTAMUS aPARROT aRACCOON aLOBSTER
    aMOSQUITO aMICROBE aBADGER aSWAN aMAMMOTH aDODO aSLOTH aOTTER aORANGUTAN aSKUNK aFLAMINGO
    aOYSTER aBEAVER aBISON aSEAL aGUIDE_DOG aPROBING_CANE aEMOJI_COMPONENT_RED_HAIR ckg_HAIR cBALD
    cbe_HAIR aBONE aLEG aFOOT aTOOTH aSUPERHERO aSUPERVILLAIN aSAFETY_VEST aEAR_ad_HEARING_AID
    aMOTORIZED_WHEELCHAIR aMANUAL_WHEELCHAIR aMECHANICAL_ARM bLEG aCHEESE_WEDGE aCUPCAKE
    aSALT_SHAKER aBEVERAGE_BOX aGARLIC aONION aFALAFEL aWAFFLE aBUTTER aMATE_DRINK aICE_CUBE
    auj_TEA aTROLL aSTANDING_me aKNEELING_me aDEAF_me adu_ad_MONOCLE aADULT aCHILD aOLDER_ADULT
    aBEARDED_me ame_ad_HEADSCARF bIN_STEAMY_ROOM bCLIMBING bIN_LOTUS_POSITION aMAGE aFAIRY aVAMPIRE
    aMERPERSON aELF aGENIE aZOMBIE aBRAIN aORANGE_jr aBILLED_CAP aSCARF aGLOVES aCOAT aSOCKS
    aRED_GIFT_of aFIRECRACKER aJIGSAW_PUZZLE_PIECE aTEST_TUBE aPETRI_qw aDNA_an_HELIX aCOMPASS
    aABACUS aFIRE_EXTINGUISHER aTOOLBOX aBRICK aMAGNET aLUGGAGE aLOTION_BOTTLE aSPOOL_OF_THREAD
    aBALL_OF_YARN aSAFETY_PIN aTEDDY_BEAR aBROOM aBASKET aROLL_OF_PAPER agh_OF_SOAP aSPONGE
    aRECEIPT aNAZAR_AMULET ahx_iu_ux cqn cROOK cpq chw cPAWN abe_iu_hw_cr_FORTY-FIVE_dp
    aaz_iu_hw_cr_FORTY-FIVE_dp ahx_iu_hw_cr_FORTY-FIVE_dp abe_iu_ux_cr_gc_dp cqn_cr_gc_dp
    cROOK_cr_gc_dp cpq_cr_gc_dp chw_cr_gc_dp cPAWN_cr_gc_dp aaz_iu_ux_cr_gc_dp cqn_cr_gc_dp
    cROOK_cr_gc_dp cpq_cr_gc_dp chw_cr_gc_dp cPAWN_cr_gc_dp ahx_iu_ux_cr_gc_dp cqn_cr_gc_dp
    cROOK_cr_gc_dp cpq_cr_gc_dp chw_cr_gc_dp cPAWN_cr_gc_dp abe_iu_hw_cr_cu_bb_THIRTY-FIVE_dp
    aaz_iu_hw_cr_cu_bb_THIRTY-FIVE_dp ahx_iu_hw_cr_cu_bb_THIRTY-FIVE_dp abe_iu_cj_ux dqn dROOK dpq
    dhw dPAWN aaz_iu_cj_ux dqn dROOK dpq dhw dPAWN ahx_iu_cj_ux dqn dROOK dpq dhw dPAWN
    abe_iu_hw_cr_cn_bb_vu_dp aaz_iu_hw_cr_cn_bb_vu_dp ahx_iu_hw_cr_cn_bb_vu_dp
    abe_iu_ux_cr_cn_bb_fh_dp cqn_cr_cn_bb_fh_dp cROOK_cr_cn_bb_fh_dp cpq_cr_cn_bb_fh_dp
    chw_cr_cn_bb_fh_dp cPAWN_cr_cn_bb_fh_dp aaz_iu_ux_cr_cn_bb_fh_dp cqn_cr_cn_bb_fh_dp
    cROOK_cr_cn_bb_fh_dp cpq_cr_cn_bb_fh_dp chw_cr_cn_bb_fh_dp cPAWN_cr_cn_bb_fh_dp
    ahx_iu_ux_cr_cn_bb_fh_dp cqn_cr_cn_bb_fh_dp cROOK_cr_cn_bb_fh_dp cpq_cr_cn_bb_fh_dp
    chw_cr_cn_bb_fh_dp cPAWN_cr_cn_bb_fh_dp abe_iu_hw_cr_ay_bb_ny_dp aaz_iu_hw_cr_ay_bb_ny_dp
    ahx_iu_hw_cr_ay_bb_ny_dp abe_iu_py aaz_iu_py ahx_iu_py abe_iu_py_cr_gc_dp aaz_iu_py_cr_gc_dp
    ahx_iu_py_cr_gc_dp abe_iu_KNIGHT-QUEEN cKNIGHT-ROOK cKNIGHT-BISHOP aaz_iu_KNIGHT-QUEEN
    cKNIGHT-ROOK cKNIGHT-BISHOP =1FA60 aXIANGQI_RED_GENERAL cMANDARIN cELEPHANT cHORSE cCHARIOT
    cCANNON cSOLDIER baz_GENERAL cMANDARIN cELEPHANT cHORSE cCHARIOT cCANNON cSOLDIER =1FA70
    aBALLET_SHOES aONE-PIECE_SWIMSUIT aBRIEFS aSHORTS aTHONG_SANDAL =1FA78 aDROP_OF_BLOOD
    aADHESIVE_BANDAGE aSTETHOSCOPE aX-RAY aCRUTCH =1FA80 aYO-YO aKITE aPARACHUTE aBOOMERANG
    aMAGIC_WAND aPINATA aNESTING_DOLLS =1FA90 aRINGED_PLANET aCHAIR aRAZOR aAXE aDIYA_LAMP aBANJO
    aMILITARY_HELMET aACCORDION afm_DRUM aCOIN aCARPENTRY_SAW aSCREWDRIVER aLADDER aby aMIRROR
    aWINDOW aPLUNGER aSEWING_NEEDLE aKNOT aBUCKET aMOUSE_TRAP aTOOTHBRUSH aHEADSTONE aPLACARD aROCK
    aMIRROR_BALL aIDENTIFICATION_CARD aiy_BATTERY aHAMSA =1FAB0 aFLY aWORM aBEETLE aCOCKROACH
    aPOTTED_PLANT aWOOD aFEATHER aLOTUS aCORAL aEMPTY_NEST aNEST_ad_EGGS =1FAC0 aANATOMICAL_jr
    aLUNGS aPEOPLE_HUGGING aPREGNANT_MAN bme ame_ad_CROWN =1FAD0 aBLUEBERRIES aBELL_PEPPER aOLIVE
    aFLATBREAD aTAMALE aFONDUE aTEAPOT aPOURING_LIQUID aBEANS aJAR =1FAE0 aMELTING_du aSALUTING_du
    adu_ad_fj_rx_bk_mj_dz_mh cPEEKING_EYE cdn_mh agb_ge_du aBITING_LIP aBUBBLES =1FAF0
    amj_ad_ck_xd_bk_dv_lt aaj_mj aao_mj aPALM_di_mj bUP_mj ack_cd_AT_ua_VIEWER ajr_HANDS =1FB00
    aey_SEXTANT-1 bSEXTANT-2 bSEXTANT-12 bSEXTANT-3 bSEXTANT-13 bSEXTANT-23 bSEXTANT-123 bSEXTANT-4
    bSEXTANT-14 bSEXTANT-24 bSEXTANT-124 bSEXTANT-34 bSEXTANT-134 bSEXTANT-234 bSEXTANT-1234
    bSEXTANT-5 bSEXTANT-15 bSEXTANT-25 bSEXTANT-125 bSEXTANT-35 bSEXTANT-235 bSEXTANT-1235
    bSEXTANT-45 bSEXTANT-145 bSEXTANT-245 bSEXTANT-1245 bSEXTANT-345 bSEXTANT-1345 bSEXTANT-2345
    bSEXTANT-12345 bSEXTANT-6 bSEXTANT-16 bSEXTANT-26 bSEXTANT-126 bSEXTANT-36 bSEXTANT-136
    bSEXTANT-236 bSEXTANT-1236 bSEXTANT-46 bSEXTANT-146 bSEXTANT-1246 bSEXTANT-346 bSEXTANT-1346
    bSEXTANT-2346 bSEXTANT-12346 bSEXTANT-56 bSEXTANT-156 bSEXTANT-256 bSEXTANT-1256 bSEXTANT-356
    bSEXTANT-1356 bSEXTANT-2356 bSEXTANT-12356 bSEXTANT-456 bSEXTANT-1456 bSEXTANT-2456
    bSEXTANT-12456 bSEXTANT-3456 bSEXTANT-13456 bSEXTANT-23456 acw_ax_ey_dn_cw_bd_ax_TO_cw_eb jak
    edt_bd_ax_TO_cw_eb jak fax_TO_cw_eb bak_ey_dn_dt_bd_ax_TO_dt_eb jak ecw_bd_ax_TO_dt_eb jak
    fax_TO_dt_eb fbd_ax_TO_dt_bd_ak feb_TO_cw_bd_ak fax_TO_cw_bd_ak feb_TO_dt_bd_ak fax_TO_dt_bd_ak
    feb_TO_dt_ak bax_ey_dn_dt_eb_TO_dt_bd_ak fax_TO_dt_bd_ak feb_TO_cw_bd_ak fax_TO_cw_bd_ak
    feb_TO_cw_ak fbd_ax_TO_cw_bd_ak adt_ak_ey_dn_cw_bd_ax_TO_cw_eb jak edt_bd_ax_TO_cw_eb jak
    fax_TO_cw_eb bax_ey_dn_dt_bd_ax_TO_dt_eb jak ecw_bd_ax_TO_dt_eb jak fax_TO_dt_eb
    fbd_ax_TO_dt_bd_ak feb_TO_cw_bd_ak fax_TO_cw_bd_ak feb_TO_dt_bd_ak fax_TO_dt_bd_ak feb_TO_dt_ak
    bak_ey_dn_dt_eb_TO_dt_bd_ak fax_TO_dt_bd_ak feb_TO_cw_bd_ak fax_TO_cw_bd_ak feb_TO_cw_ak
    fbd_ax_TO_cw_bd_ak bbk_ak_bk_cw_fc_ay_jn_ey aax_bk_cw_bk_ak_fc_ay_jn_ey
    adt_bk_ax_bk_cw_fc_ay_jn_ey aax_bk_dt_bk_ak_fc_ay_jn_ey bfc_cu_fl_ey adt_fc_cu_fl_ey
    aak_fc_cu_fl_ey acw_fc_cu_fl_ey aap_cu_ic_BLOCK-2 dBLOCK-3 dBLOCK-4 dBLOCK-5 dBLOCK-6 dBLOCK-7
    aau_cu_ic_BLOCK-2 dBLOCK-3 dBLOCK-4 dBLOCK-5 dBLOCK-6 dBLOCK-7 aax_bk_cw_cu_ic_ey cdt_cu_ic_ey
    aak_bk_dt_cu_ic_ey ccw_cu_ic_ey adt_bk_cw_cu_ic_ey aau_cu_ic_BLOCK-1358 adt_cu_fl_ey bay_kq_ey
    bca_kq_ey bay_jn_ey bbx_kq_ey aak_cu_fl_ey bay_kq_ey bca_kq_ey bay_jn_ey bbx_kq_ey aax_dj_cg_ri
    aak_dj_cg_ri adt_dj_cg_ri acw_dj_cg_ri apd_cg_ri adt_dj_ey_bk_cw_dj_pd_cg_ri
    cpd_cg_ri_bk_cw_dj_ey =1FB94 aax_dj_pd_cg_ri_bk_ak_dj_ey aCHECKER_BOARD_FILL
    apd_CHECKER_BOARD_FILL abn_au_FILL adt_ax_TO_cw_ak_FILL bak_TO_cw_ax_FILL bbk_cw_fc_dj_ey
    aax_bk_ak_fc_dj_ey adt_ax_fc_cg_ri bak_fc_cg_ri acw_ak_fc_cg_ri bax_fc_cg_ri
    aBOX_DRAWINGS_co_dn_dt_eb_TO_bd_ax iak ebd_ax_TO_cw_eb fak_TO_cw_eb edt_eb_TO_bd_ax_TO_cw_eb
    iak_TO_cw_eb ebd_ax_TO_cw_eb_TO_bd_ak hdt_eb_TO_bd_ak edt_eb_TO_bd_ax_bk_bd_ak_TO_cw_eb
    iak_bk_bd_ax_TO_cw_eb jTO_cw_eb_TO_bd_ax iax_TO_cw_eb_TO_bd_ak
    ebd_ax_TO_dt_eb_TO_bd_ak_TO_cw_eb fak_TO_dt_eb_TO_bd_ax_TO_cw_eb eem dau_ad_ap_av
    aARROWHEAD-SHAPED_POINTER apd_uk_bl aax_dj_RUNNING_MAN aak_dj_RUNNING_MAN apd_ba_ag_ad_TIP_ao
    aao_ag_bk_dt_bk_cw_cu_ic_ey aaj_ag_bk_dt_bk_cw_cu_ic_ey aba_ag_bk_ak_cu_ic_ey
    abr_ag_bk_ak_cu_ic_ey aax_dj_FOLDER aak_dj_FOLDER aVOIDED_kr_gu aak_fj_fe_dc aiz_dn_gu
    cbd_ak_TO_cw_eb cem abe_bn_ob_ad_pg_yl aax_tv_be_ak_cd_ck abd_tv_be_ak_cd_ck aak_tv_be_ak_cd_ck
    aiz_fe_ff_bl aSTICK_FIGURE cad_ARMS_ij cLEANING_ax dak cad_DRESS abe_hf_CHEVRON =1FBF0
    aSEGMENTED_ct_fb ccu ccn cay cbv cca cga cbx cbt cdo =2F800 aCJK_COMPATIBILITY_aa caa caa caa
    caa caa caa caa caa caa caa caa caa caa caa caa caa caa caa caa caa caa caa caa caa caa caa caa
    caa caa caa caa caa caa caa caa caa caa caa caa caa caa caa caa caa caa caa caa caa caa caa caa
    caa caa caa caa caa caa caa caa caa caa caa caa caa caa caa caa caa caa caa caa caa caa caa caa
    caa caa caa caa caa caa caa caa caa caa caa caa caa caa caa caa caa caa caa caa caa caa caa caa
    caa caa caa caa caa caa caa caa caa caa caa caa caa caa caa caa caa caa caa caa caa caa caa caa
    caa caa caa caa caa caa caa caa caa caa caa caa caa caa caa caa caa caa caa caa caa caa caa caa
    caa caa caa caa caa caa caa caa caa caa caa caa caa caa caa caa caa caa caa caa caa caa caa caa
    caa caa caa caa caa caa caa caa caa caa caa caa caa caa caa caa caa caa caa caa caa caa caa caa
    caa caa caa caa caa caa caa caa caa caa caa caa caa caa caa caa caa caa caa caa caa caa caa caa
    caa caa caa caa caa caa caa caa caa caa caa caa caa caa caa caa caa caa caa caa caa caa caa caa
    caa caa caa caa caa caa caa caa caa caa caa caa caa caa caa caa caa caa caa caa caa caa caa caa
    caa caa caa caa caa caa caa caa caa caa caa caa caa caa caa caa caa caa caa caa caa caa caa caa
    caa caa caa caa caa caa caa caa caa caa caa caa caa caa caa caa caa caa caa caa caa caa caa caa
    caa caa caa caa caa caa caa caa caa caa caa caa caa caa caa caa caa caa caa caa caa caa caa caa
    caa caa caa caa caa caa caa caa caa caa caa caa caa caa caa caa caa caa caa caa caa caa caa caa
    caa caa caa caa caa caa caa caa caa caa caa caa caa caa caa caa caa caa caa caa caa caa caa caa
    caa caa caa caa caa caa caa caa caa caa caa caa caa caa caa caa caa caa caa caa caa caa caa caa
    caa caa caa caa caa caa caa caa caa caa caa caa caa caa caa caa caa caa caa caa caa caa caa caa
    caa caa caa caa caa caa caa caa caa caa caa caa caa caa caa caa caa caa caa caa caa caa caa caa
    caa caa caa caa caa caa caa caa caa caa caa caa caa caa caa caa caa caa caa caa caa caa caa caa
    caa caa caa caa caa caa caa caa caa caa caa caa caa caa caa caa caa caa caa caa caa caa caa caa
    caa caa caa caa caa caa caa caa caa caa caa caa caa caa caa caa caa caa caa caa caa caa caa caa
    caa caa caa caa caa caa caa caa caa caa =E0001 aLANGUAGE_TAG =E0020 aTAG_lr bdy_bl bej_bl
    bds_am bDOLLAR_am bPERCENT_am bng bky bax_cf bak_cf bdk bdb_am bew bsu bii_gg bhl bct_fb ccu
    ccn cay cbv cca cga cbx cbt cdo biv bjy bbw_am bgq_am bbj_am bff_bl bsq_AT bfu_ae_ac_A eB eC eD
    eE eF eG eH eI eJ eK eL eM eN eO eP eQ eR eS eT eU eV eW eX eY eZ bax_bp_bf bhy_hl bak_bp_bf
    bbg_fv biy_ge bei_fv bfu_af_ac_A eB eC eD eE eF eG eH eI eJ eK eL eM eN eO eP eQ eR eS eT eU eV
    eW eX eY eZ bax_kg_bf bap_ge bak_kg_bf bcs aCANCEL_TAG =E0100 awg_SELECTOR-17 bSELECTOR-18
    bSELECTOR-19 bSELECTOR-20 bSELECTOR-21 bSELECTOR-22 bSELECTOR-23 bSELECTOR-24 bSELECTOR-25
    bSELECTOR-26 bSELECTOR-27 bSELECTOR-28 bSELECTOR-29 bSELECTOR-30 bSELECTOR-31 bSELECTOR-32
    bSELECTOR-33 bSELECTOR-34 bSELECTOR-35 bSELECTOR-36 bSELECTOR-37 bSELECTOR-38 bSELECTOR-39
    bSELECTOR-40 bSELECTOR-41 bSELECTOR-42 bSELECTOR-43 bSELECTOR-44 bSELECTOR-45 bSELECTOR-46
    bSELECTOR-47 bSELECTOR-48 bSELECTOR-49 bSELECTOR-50 bSELECTOR-51 bSELECTOR-52 bSELECTOR-53
    bSELECTOR-54 bSELECTOR-55 bSELECTOR-56 bSELECTOR-57 bSELECTOR-58 bSELECTOR-59 bSELECTOR-60
    bSELECTOR-61 bSELECTOR-62 bSELECTOR-63 bSELECTOR-64 bSELECTOR-65 bSELECTOR-66 bSELECTOR-67
    bSELECTOR-68 bSELECTOR-69 bSELECTOR-70 bSELECTOR-71 bSELECTOR-72 bSELECTOR-73 bSELECTOR-74
    bSELECTOR-75 bSELECTOR-76 bSELECTOR-77 bSELECTOR-78 bSELECTOR-79 bSELECTOR-80 bSELECTOR-81
    bSELECTOR-82 bSELECTOR-83 bSELECTOR-84 bSELECTOR-85 bSELECTOR-86 bSELECTOR-87 bSELECTOR-88
    bSELECTOR-89 bSELECTOR-90 bSELECTOR-91 bSELECTOR-92 bSELECTOR-93 bSELECTOR-94 bSELECTOR-95
    bSELECTOR-96 bSELECTOR-97 bSELECTOR-98 bSELECTOR-99 bSELECTOR-100 bSELECTOR-101 bSELECTOR-102
    bSELECTOR-103 bSELECTOR-104 bSELECTOR-105 bSELECTOR-106 bSELECTOR-107 bSELECTOR-108
    bSELECTOR-109 bSELECTOR-110 bSELECTOR-111 bSELECTOR-112 bSELECTOR-113 bSELECTOR-114
    bSELECTOR-115 bSELECTOR-116 bSELECTOR-117 bSELECTOR-118 bSELECTOR-119 bSELECTOR-120
    bSELECTOR-121 bSELECTOR-122 bSELECTOR-123 bSELECTOR-124 bSELECTOR-125 bSELECTOR-126
    bSELECTOR-127 bSELECTOR-128 bSELECTOR-129 bSELECTOR-130 bSELECTOR-131 bSELECTOR-132
    bSELECTOR-133 bSELECTOR-134 bSELECTOR-135 bSELECTOR-136 bSELECTOR-137 bSELECTOR-138
    bSELECTOR-139 bSELECTOR-140 bSELECTOR-141 bSELECTOR-142 bSELECTOR-143 bSELECTOR-144
    bSELECTOR-145 bSELECTOR-146 bSELECTOR-147 bSELECTOR-148 bSELECTOR-149 bSELECTOR-150
    bSELECTOR-151 bSELECTOR-152 bSELECTOR-153 bSELECTOR-154 bSELECTOR-155 bSELECTOR-156
    bSELECTOR-157 bSELECTOR-158 bSELECTOR-159 bSELECTOR-160 bSELECTOR-161 bSELECTOR-162
    bSELECTOR-163 bSELECTOR-164 bSELECTOR-165 bSELECTOR-166 bSELECTOR-167 bSELECTOR-168
    bSELECTOR-169 bSELECTOR-170 bSELECTOR-171 bSELECTOR-172 bSELECTOR-173 bSELECTOR-174
    bSELECTOR-175 bSELECTOR-176 bSELECTOR-177 bSELECTOR-178 bSELECTOR-179 bSELECTOR-180
    bSELECTOR-181 bSELECTOR-182 bSELECTOR-183 bSELECTOR-184 bSELECTOR-185 bSELECTOR-186
    bSELECTOR-187 bSELECTOR-188 bSELECTOR-189 bSELECTOR-190 bSELECTOR-191 bSELECTOR-192
    bSELECTOR-193 bSELECTOR-194 bSELECTOR-195 bSELECTOR-196 bSELECTOR-197 bSELECTOR-198
    bSELECTOR-199 bSELECTOR-200 bSELECTOR-201 bSELECTOR-202 bSELECTOR-203 bSELECTOR-204
    bSELECTOR-205 bSELECTOR-206 bSELECTOR-207 bSELECTOR-208 bSELECTOR-209 bSELECTOR-210
    bSELECTOR-211 bSELECTOR-212 bSELECTOR-213 bSELECTOR-214 bSELECTOR-215 bSELECTOR-216
    bSELECTOR-217 bSELECTOR-218 bSELECTOR-219 bSELECTOR-220 bSELECTOR-221 bSELECTOR-222
    bSELECTOR-223 bSELECTOR-224 bSELECTOR-225 bSELECTOR-226 bSELECTOR-227 bSELECTOR-228
    bSELECTOR-229 bSELECTOR-230 bSELECTOR-231 bSELECTOR-232 bSELECTOR-233 bSELECTOR-234
    bSELECTOR-235 bSELECTOR-236 bSELECTOR-237 bSELECTOR-238 bSELECTOR-239 bSELECTOR-240
    bSELECTOR-241 bSELECTOR-242 bSELECTOR-243 bSELECTOR-244 bSELECTOR-245 bSELECTOR-246
    bSELECTOR-247 bSELECTOR-248 bSELECTOR-249 bSELECTOR-250 bSELECTOR-251 bSELECTOR-252
    bSELECTOR-253 bSELECTOR-254 bSELECTOR-255 bSELECTOR-256 =0 aNUL =0 aNULL aSOH =1
    aSTART_OF_HEADING cTEXT =2 aSTX auc_OF_TEXT =3 aETX auc_OF_to =4 aEOT aENQ =5 aENQUIRY aACK =6
    aue aALERT =7 aBEL aBACKSPACE =8 aBS ahv_ja =9 aau_ja =9 aHT =9 aTAB auc_OF_ge =A aEOL =A aLF
    =A age_FEED =A aNEW_ge =A aNL age_ja =B aap_ja =B aVT aFF =C aah_FEED aCARRIAGE_RETURN =D aCR
    aLOCKING-SHIFT_cu =E aSHIFT_OUT =E aSO aLOCKING-SHIFT_fb =F aSHIFT_IN =F aSI aDATA_LINK_ESCAPE
    =10 aDLE aDC1 =11 aDEVICE_ra_cu aDC2 =12 aDEVICE_ra_cn aDC3 =13 aDEVICE_ra_ay aDC4 =14
    aDEVICE_ra_bv aNAK =15 aiz_ue aSYN =16 aSYNCHRONOUS_IDLE auc_OF_to_ey =17 aETB aCAN =18 aCANCEL
    auc_OF_cg =19 aEOM aSUB =1A aSUBSTITUTE aESC =1B aESCAPE aFILE_ee =1C aFS =1C aoh_ee_bv
    aGROUP_ee =1D aGS =1D aoh_ee_ay ccn =1E aRECORD_ee =1E aRS aoh_ee_cu =1F aUNIT_ee =1F aUS aSP
    =7F aDEL =7F aDELETE aPAD =80 aPADDING_hv afy_OCTET_PRESET =81 aHOP aBPH =82
    aBREAK_PERMITTED_HERE aNBH =83 aNO_BREAK_HERE aIND =84 ack aNEL =85 aNEXT_ge asj =86
    aSTART_OF_SELECTED_AREA auc_OF_SELECTED_AREA =87 aESA ahv_ja_SET =88 aau_ja_SET =88 aHTS
    ahv_ja_ad_JUSTIFICATION =89 aau_ja_ad_JUSTIFICATION =89 aHTJ age_ja_SET =8A aap_ja_SET =8A aVTS
    atb_ge_di =8B cji =8B aPLD atb_ge_BACKWARD =8C cUP =8C aPLU ahy_ck =8D bge_FEED =8D aRI
    acy_SHIFT_cn =8E aSINGLE-SHIFT-2 =8E aSS2 acy_SHIFT_ay =8F aSINGLE-SHIFT-3 =8F aSS3 aDCS =90
    aDEVICE_ra_STRING aPRIVATE_USE_cu =91 bUSE-1 =91 aPU1 aPRIVATE_USE_cn =92 bUSE-2 =92 aPU2
    aSET_TRANSMIT_STATE =93 aSTS aCANCEL_hv =94 aCCH aMESSAGE_WAITING =95 aMW aSPA =96
    aSTART_OF_GUARDED_AREA =96 cPROTECTED_AREA auc_OF_GUARDED_AREA =97 cPROTECTED_AREA =97 aEPA
    aSOS =98 aSTART_OF_STRING aSGC =99 acy_GRAPHIC_hv_INTRODUCER aSCI =9A acy_hv_INTRODUCER
    ara_SEQUENCE_INTRODUCER =9B aCSI aST =9C aSTRING_TERMINATOR aOPERATING_SYSTEM_COMMAND =9D aOSC
    aPM =9E aPRIVACY_MESSAGE aAPC =9F aAPPLICATION_PROGRAM_COMMAND aNBSP =AD aSHY =1A2 afu_ae_ac_pm
    baf_ac_pm =34F aCGJ =61C aALM =709 aSYRIAC_SUBLINEAR_iv_SKEWED_ax =CDE aKANNADA_ac_LLLA =E9D
    aLAO_ac_FO_FON =E9F dFAY =EA3 cRO =EA5 cLO =FD0 aTIBETAN_bl_BKA-_SHOG_GI_MGO_RGYAN =11EC
    ast_JONGSEONG_YESIEUNG-KIYEOK cYESIEUNG-SSANGKIYEOK cSSANGYESIEUNG cYESIEUNG-KHIEUKH =180B
    aFVS1 aFVS2 aFVS3 aMVS aFVS4 =200B aZWSP aZWNJ aZWJ aLRM aRLM =202A aLRE aRLE aPDF aLRO aRLO
    aNNBSP =205F aMMSP aWJ =2066 aLRI aRLI aFSI aPDI =2118 aWEIERSTRASS_ELLIPTIC_FUNCTION =2448
    aMICR_ON_US_aw bjw_aw =2B7A aao_aq_ag_ad_an_ap_av =2B7C aaj_aq_ag_ad_an_ap_av =A015
    aYI_il_lg_bl =AA6E aMYANMAR_ac_KHAMTI_LLA =FE00 aVS1 aVS2 aVS3 aVS4 aVS5 aVS6 aVS7 aVS8 aVS9
    aVS10 aVS11 aVS12 aVS13 aVS14 aVS15 aVS16 =FE18 atd_ah_tq_ap_ak_be_lb_bf =FEFF aBOM =FEFF
    aBYTE_ORDER_bl =FEFF aZWNBSP =122D4 aCUNEIFORM_am_NU11_ka ddz_NU11_BUR_dz_BUR =16E56
    aMEDEFAIDRIN_ae_ac_H dNG =16E76 baf_ac_H dNG =1B001 aHENTAIGANA_ac_E-1 =1D0C5
    aBYZANTINE_lx_aw_FTHORA_SKLIRON_CHROMA_VASIS =E0100 aVS17 aVS18 aVS19 aVS20 aVS21 aVS22 aVS23
    aVS24 aVS25 aVS26 aVS27 aVS28 aVS29 aVS30 aVS31 aVS32 aVS33 aVS34 aVS35 aVS36 aVS37 aVS38 aVS39
    aVS40 aVS41 aVS42 aVS43 aVS44 aVS45 aVS46 aVS47 aVS48 aVS49 aVS50 aVS51 aVS52 aVS53 aVS54 aVS55
    aVS56 aVS57 aVS58 aVS59 aVS60 aVS61 aVS62 aVS63 aVS64 aVS65 aVS66 aVS67 aVS68 aVS69 aVS70 aVS71
    aVS72 aVS73 aVS74 aVS75 aVS76 aVS77 aVS78 aVS79 aVS80 aVS81 aVS82 aVS83 aVS84 aVS85 aVS86 aVS87
    aVS88 aVS89 aVS90 aVS91 aVS92 aVS93 aVS94 aVS95 aVS96 aVS97 aVS98 aVS99 aVS100 aVS101 aVS102
    aVS103 aVS104 aVS105 aVS106 aVS107 aVS108 aVS109 aVS110 aVS111 aVS112 aVS113 aVS114 aVS115
    aVS116 aVS117 aVS118 aVS119 aVS120 aVS121 aVS122 aVS123 aVS124 aVS125 aVS126 aVS127 aVS128
    aVS129 aVS130 aVS131 aVS132 aVS133 aVS134 aVS135 aVS136 aVS137 aVS138 aVS139 aVS140 aVS141
    aVS142 aVS143 aVS144 aVS145 aVS146 aVS147 aVS148 aVS149 aVS150 aVS151 aVS152 aVS153 aVS154
    aVS155 aVS156 aVS157 aVS158 aVS159 aVS160 aVS161 aVS162 aVS163 aVS164 aVS165 aVS166 aVS167
    aVS168 aVS169 aVS170 aVS171 aVS172 aVS173 aVS174 aVS175 aVS176 aVS177 aVS178 aVS179 aVS180
    aVS181 aVS182 aVS183 aVS184 aVS185 aVS186 aVS187 aVS188 aVS189 aVS190 aVS191 aVS192 aVS193
    aVS194 aVS195 aVS196 aVS197 aVS198 aVS199 aVS200 aVS201 aVS202 aVS203 aVS204 aVS205 aVS206
    aVS207 aVS208 aVS209 aVS210 aVS211 aVS212 aVS213 aVS214 aVS215 aVS216 aVS217 aVS218 aVS219
    aVS220 aVS221 aVS222 aVS223 aVS224 aVS225 aVS226 aVS227 aVS228 aVS229 aVS230 aVS231 aVS232
    aVS233 aVS234 aVS235 aVS236 aVS237 aVS238 aVS239 aVS240 aVS241 aVS242 aVS243 aVS244 aVS245
    aVS246 aVS247 aVS248 aVS249 aVS250 aVS251 aVS252 aVS253 aVS254 aVS255 aVS256"

end CodeAudit.Text
